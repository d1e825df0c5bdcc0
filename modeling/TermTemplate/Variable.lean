import TermTemplate.Value

/-! Variables named by letters: small letters for one call, capital letters across calls. -/
namespace TermTemplate

inductive Variable
  | dynamic (index : Fin 26)
  | static (index : Fin 26)
  deriving DecidableEq, Repr

def letterIndex? (first c : Char) : Option (Fin 26) :=
  if h : first ≤ c ∧ c.toNat - first.toNat < 26 then some ⟨c.toNat - first.toNat, h.2⟩ else none

def Variable.ofLetter? (c : Char) : Option Variable :=
  (letterIndex? 'a' c).map .dynamic <|> (letterIndex? 'A' c).map .static

def Variable.letter : Variable → Char
  | dynamic i => Char.ofNat ('a'.toNat + i)
  | static i => Char.ofNat ('A'.toNat + i)

@[simp] theorem Variable.ofLetter?_letter (v : Variable) : ofLetter? v.letter = some v := by
  cases v with
  | dynamic i => revert i; decide
  | static i => revert i; decide

/-- The values of one kind of variable, by letter. -/
abbrev Variables := Vector Value 26

namespace Variables

/-- Every variable starts as the integer 0. -/
def initial : Variables := Vector.replicate 26 default

/-- Looks a static variable up by its capital letter. -/
def byLetter? (vs : Variables) (c : Char) : Option Value := (letterIndex? 'A' c).map vs.get

end Variables

end TermTemplate
