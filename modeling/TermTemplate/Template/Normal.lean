import Mathlib.Data.List.Chain
import TermTemplate.Template.Tokens

/-! The token lists that templates are read as: literals are full and apart, and what a directive
holds is within the bounds of its notation. -/
namespace TermTemplate

def Layout.Normal (l : Layout) : Prop := l.width ≤ limit ∧ ∀ n ∈ l.precision, n ≤ limit

instance : DecidablePred Layout.Normal := fun _ => inferInstanceAs (Decidable (_ ∧ _))

theorem Layout.normal_default : ({} : Layout).Normal := by decide

/-- What can be written behind `%`: one digit for a parameter, and a constant whose magnitude is in
range. The 26 letters of variables are a matter of their type. -/
def Action.Normal : Action → Prop
  | parameter index => index < 9
  | integer n => n.toInt.natAbs ≤ Template.greatestInteger
  | print f => f.layout.Normal
  | _ => True

instance : DecidablePred Action.Normal
  | .parameter index => inferInstanceAs (Decidable (index < 9))
  | .integer n => inferInstanceAs (Decidable (n.toInt.natAbs ≤ Template.greatestInteger))
  | .print f => inferInstanceAs (Decidable f.layout.Normal)
  | .set _ | .get _ | .length | .binary _ | .unary _ => inferInstanceAs (Decidable True)

namespace Template

/-- The whole text of padding, `$<` and `>` included. -/
def IsPadding (text : String) : Prop :=
  ∃ body : List Char, (∀ c ∈ body, isPaddingChar c) ∧
    text = String.ofList ('$' :: '<' :: body ++ ['>'])

end Template

namespace Token

def isLiteral : Token → Bool
  | literal _ => true
  | _ => false

def Normal : Token → Prop
  | literal text => text ≠ ""
  | padding text => Template.IsPadding text
  | action a => a.Normal
  | _ => True

/-- The pieces of a template that the token is read from. -/
def pieces : Token → List Template.Lexeme
  | literal text => text.toList.map .char
  | t => [.token t]

end Token

namespace Template

structure Normal (ts : List Token) : Prop where
  each : ∀ t ∈ ts, t.Normal
  apart : ts.IsChain fun t u => ¬(t.isLiteral ∧ u.isLiteral)

/-- Puts tokens of two templates together. Literals that meet become one. -/
def join : List Token → List Token → List Token
  | [], us => us
  | [.literal s], .literal t :: us => .literal (s ++ t) :: us
  | t :: ts, us => t :: join ts us

end Template

end TermTemplate
