import TermTemplate.Structured.Basic
import TermTemplate.Template.Normal
import TermTemplate.Template.Printer

/-! Templates written from structured ones, operands first. -/
namespace TermTemplate

/-- A quote inside a character constant needs no escape, but a backslash does. -/
def characterSource (c : Char) : List Char :=
  '%' :: '\'' :: (if c = '\\' then ['\\', '\\'] else [c]) ++ ['\'']

def Expr.source : Expr → List Char
  | parameter index => Token.source (.action (.parameter index))
  | integer n => Token.source (.action (.integer n))
  | character c => characterSource c
  | get v => Token.source (.action (.get v))
  | length e => e.source ++ Token.source (.action .length)
  | unary op e => e.source ++ Token.source (.action (.unary op))
  | binary op left right => left.source ++ right.source ++ Token.source (.action (.binary op))

mutual

def Stmt.source : Stmt → List Char
  | .text t => Token.source (.literal t)
  | .print f e => e.source ++ Token.source (.action (.print f))
  | .store v e => e.source ++ Token.source (.action (.set v))
  | .seq first second => first.source ++ second.source
  | .cond c => Token.beginIf.source ++ c.source ++ Token.endIf.source

def Chain.source : Chain → List Char
  | .last test arm => test.source ++ Token.thenArm.source ++ arm.source
  | .lastElse test arm otherwise =>
    test.source ++ Token.thenArm.source ++ arm.source ++ Token.elseArm.source ++ otherwise.source
  | .elseIf test arm rest =>
    test.source ++ Token.thenArm.source ++ arm.source ++ Token.elseArm.source ++ rest.source

end

/-- Every integer constant is within the bounds of its notation. -/
def Expr.Writable : Expr → Prop
  | integer n => (Action.integer n).Normal
  | length e | unary _ e => e.Writable
  | binary _ left right => left.Writable ∧ right.Writable
  | _ => True

mutual

/-- So is every width and precision. -/
def Stmt.Writable : Stmt → Prop
  | .text _ => True
  | .print f e => f.layout.Normal ∧ e.Writable
  | .store _ e => e.Writable
  | .seq first second => first.Writable ∧ second.Writable
  | .cond c => c.Writable

def Chain.Writable : Chain → Prop
  | .last test arm => test.Writable ∧ arm.Writable
  | .lastElse test arm otherwise => test.Writable ∧ arm.Writable ∧ otherwise.Writable
  | .elseIf test arm rest => test.Writable ∧ arm.Writable ∧ rest.Writable

end

end TermTemplate
