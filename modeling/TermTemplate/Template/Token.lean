import TermTemplate.Machine

/-! What templates are made of. -/
namespace TermTemplate

inductive Token
  | literal (text : String)
  /-- A delay for the terminal line, with its `$<` and `>`. -/
  | padding (text : String)
  | action (a : Action)
  /-- Makes the first two parameters count from 1, throughout the template. -/
  | increment
  | beginIf
  | thenArm
  | elseArm
  | endIf
  deriving DecidableEq, Repr

namespace Token

/-- The directives that are one letter behind `%`. -/
def ofLetter? : Char → Option Token
  | 'l' => some (.action .length)
  | 'i' => some .increment
  | '?' => some .beginIf
  | 't' => some .thenArm
  | 'e' => some .elseArm
  | ';' => some .endIf
  | c =>
    (BinaryOp.ofChar? c).map (.action ∘ .binary) <|>
    (UnaryOp.ofChar? c).map (.action ∘ .unary) <|>
    (Conversion.ofChar? c).map fun conversion => .action (.print { conversion })

end Token

end TermTemplate
