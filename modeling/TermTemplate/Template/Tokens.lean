import TermTemplate.Template.Lexeme

/-! Reading a whole template. -/
namespace TermTemplate.Template

/-- What stopped the reading, and the characters from its directive on. -/
structure Failure where
  cause : Cause
  rest : List Char
  deriving DecidableEq, Repr

def lexemes : List Char → Except Failure (List Lexeme)
  | [] => .ok []
  | c :: cs =>
    match _found : readLexeme c cs with
    | .error cause => .error ⟨cause, c :: cs⟩
    | .ok (x, rest) => (lexemes rest).map (x :: ·)
termination_by cs => cs.length
decreasing_by exact Nat.lt_succ_of_le (readLexeme_suffix _found).length_le

def consText (text : String) (ts : List Token) : List Token :=
  if text.isEmpty then ts else .literal text :: ts

/-- Joins runs of characters into literals. `text` is the run that is being read. -/
def gather (text : String) : List Lexeme → List Token
  | [] => consText text []
  | .char c :: xs => gather (text.push c) xs
  | .token t :: xs => consText text (t :: gather "" xs)

def tokens (source : String) : Except Error (List Token) :=
  match lexemes source.toList with
  | .ok xs => .ok (gather "" xs)
  | .error f => .error ⟨f.cause, source.utf8ByteSize - (String.ofList f.rest).utf8ByteSize⟩

/-- The template is accepted, and the token is one of those that it is read as. -/
def Holds (source : String) (t : Token) : Prop := ∃ ts ∈ (tokens source).toOption, t ∈ ts

instance (source : String) (t : Token) : Decidable (Holds source t) :=
  inferInstanceAs (Decidable (∃ ts ∈ (tokens source).toOption, t ∈ ts))

theorem holds_iff {source : String} {ts : List Token} (read : tokens source = .ok ts) {t : Token} :
    Holds source t ↔ t ∈ ts := by
  simp [Holds, read, Except.toOption]

end TermTemplate.Template
