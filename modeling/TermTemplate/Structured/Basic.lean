import TermTemplate.Machine

/-! Templates as nested expressions and statements, with a meaning that has no stack: an expression
is one value, and of a conditional exactly one arm is run. -/
namespace TermTemplate

inductive Expr
  /-- Counted from 0. -/
  | parameter (index : Fin 9)
  | integer (n : Int64)
  | character (c : Char)
  | get (v : Variable)
  | length (e : Expr)
  | unary (op : UnaryOp) (e : Expr)
  | binary (op : BinaryOp) (left right : Expr)
  deriving DecidableEq, Repr

def Expr.eval (ps : Parameters) (s : State) : Expr → Value
  | parameter index => ps.get index
  | integer n => .integer n
  | character c => .ofChar c
  | get v => s.load v
  | length e => .ofNat (e.eval ps s).length
  | unary op e => op.apply (e.eval ps s)
  | binary op left right => op.apply (left.eval ps s) (right.eval ps s)

mutual

inductive Stmt
  | text (t : String)
  | print (f : Field) (e : Expr)
  | store (v : Variable) (e : Expr)
  | seq (first second : Stmt)
  | cond (c : Chain)

/-- Tests in order, each with its arm. -/
inductive Chain
  | last (test : Expr) (arm : Stmt)
  | lastElse (test : Expr) (arm otherwise : Stmt)
  | elseIf (test : Expr) (arm : Stmt) (rest : Chain)

end

mutual

def Stmt.exec (ps : Parameters) (s : State) : Stmt → State
  | .text t => s.write t
  | .print f e => s.write (f.render (some (e.eval ps s)))
  | .store v e => s.store (e.eval ps s) v
  | .seq first second => second.exec ps (first.exec ps s)
  | .cond c => c.exec ps s

/-- Only the first arm whose test is true is run. -/
def Chain.exec (ps : Parameters) (s : State) : Chain → State
  | .last test arm => if (test.eval ps s).isTruthy then arm.exec ps s else s
  | .lastElse test arm otherwise =>
    if (test.eval ps s).isTruthy then arm.exec ps s else otherwise.exec ps s
  | .elseIf test arm rest => if (test.eval ps s).isTruthy then arm.exec ps s else rest.exec ps s

end

end TermTemplate
