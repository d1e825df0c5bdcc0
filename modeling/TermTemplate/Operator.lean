import TermTemplate.Value

/-! Operators on values. Arithmetic is on 64-bit words and wraps. -/
namespace TermTemplate

inductive BinaryOp
  | add
  | subtract
  | multiply
  | divide
  | modulo
  | bitAnd
  | bitOr
  | bitXor
  | equal
  | less
  | greater
  | logicalAnd
  | logicalOr
  deriving DecidableEq, Repr

inductive UnaryOp
  | logicalNot
  | complement
  deriving DecidableEq, Repr

namespace BinaryOp

def ofChar? : Char → Option BinaryOp
  | '+' => some .add
  | '-' => some .subtract
  | '*' => some .multiply
  | '/' => some .divide
  | 'm' => some .modulo
  | '&' => some .bitAnd
  | '|' => some .bitOr
  | '^' => some .bitXor
  | '=' => some .equal
  | '<' => some .less
  | '>' => some .greater
  | 'A' => some .logicalAnd
  | 'O' => some .logicalOr
  | _ => none

def letter : BinaryOp → Char
  | add => '+'
  | subtract => '-'
  | multiply => '*'
  | divide => '/'
  | modulo => 'm'
  | bitAnd => '&'
  | bitOr => '|'
  | bitXor => '^'
  | equal => '='
  | less => '<'
  | greater => '>'
  | logicalAnd => 'A'
  | logicalOr => 'O'

@[simp] theorem ofChar?_letter (op : BinaryOp) : ofChar? op.letter = some op := by cases op <;> rfl

/-- Whether a word holds the quotient: not for a zero divisor, nor for the least word over -1. -/
def hasQuotient (x y : Int64) : Bool := y != 0 && !(x == Int64.minValue && y == -1)

def onWords (op : BinaryOp) (x y : Int64) : Int64 :=
  match op with
  | add => x + y
  | subtract => x - y
  | multiply => x * y
  | divide => if hasQuotient x y then x / y else 0
  | modulo => if hasQuotient x y then x % y else 0
  | bitAnd => x &&& y
  | bitOr => x ||| y
  | bitXor => x ^^^ y
  | equal => if x = y then 1 else 0
  | less => if x < y then 1 else 0
  | greater => if y < x then 1 else 0
  | logicalAnd => if x ≠ 0 ∧ y ≠ 0 then 1 else 0
  | logicalOr => if x ≠ 0 ∨ y ≠ 0 then 1 else 0

/-- Two texts are equal as texts; all else works on the integers that the values count as. -/
def apply : BinaryOp → Value → Value → Value
  | equal, .text s, .text t => .ofBool (s == t)
  | op, x, y => .integer (op.onWords x.toInteger y.toInteger)

end BinaryOp

namespace UnaryOp

def ofChar? : Char → Option UnaryOp
  | '!' => some .logicalNot
  | '~' => some .complement
  | _ => none

def letter : UnaryOp → Char
  | logicalNot => '!'
  | complement => '~'

@[simp] theorem ofChar?_letter (op : UnaryOp) : ofChar? op.letter = some op := by cases op <;> rfl

def onWord : UnaryOp → Int64 → Int64
  | logicalNot, x => if x = 0 then 1 else 0
  | complement, x => ~~~x

def apply (op : UnaryOp) (x : Value) : Value := .integer (op.onWord x.toInteger)

end UnaryOp

end TermTemplate
