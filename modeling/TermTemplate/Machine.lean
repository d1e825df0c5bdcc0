import TermTemplate.Field.Render
import TermTemplate.Operator
import TermTemplate.Variable

/-! The stack machine that templates work on. Nothing it does can fail: a missing parameter and an
empty stack read as the integer 0, and a field prints nothing when the stack is empty. -/
namespace TermTemplate

/-- A step of the machine that does not depend on where it stands in a template. -/
inductive Action
  /-- Counted from 0. -/
  | parameter (index : Nat)
  | integer (n : Int64)
  | set (v : Variable)
  | get (v : Variable)
  | length
  | binary (op : BinaryOp)
  | unary (op : UnaryOp)
  | print (f : Field)
  deriving DecidableEq, Repr

structure Parameters where
  values : List Value
  /-- The first two parameters count from 1 instead of 0. -/
  increment : Bool := false
  deriving DecidableEq, Repr

/-- Only integers are incremented, and the increment wraps. -/
def Parameters.get (ps : Parameters) (index : Nat) : Value :=
  match ps.values[index]?.getD default with
  | .integer n => .integer (if ps.increment && index < 2 then n + 1 else n)
  | .text s => .text s

structure State where
  stack : List Value := []
  dynamics : Variables := Variables.initial
  statics : Variables := Variables.initial
  output : String := ""
  deriving DecidableEq, Repr

namespace State

def push (s : State) (v : Value) : State := { s with stack := v :: s.stack }

def top (s : State) : Value := s.stack.headD default

def drop (s : State) : State := { s with stack := s.stack.tail }

@[simp] theorem top_push (s : State) (v : Value) : (s.push v).top = v := rfl

@[simp] theorem drop_push (s : State) (v : Value) : (s.push v).drop = s := rfl

def load (s : State) : Variable → Value
  | .dynamic i => s.dynamics.get i
  | .static i => s.statics.get i

def store (s : State) (v : Value) : Variable → State
  | .dynamic i => { s with dynamics := s.dynamics.set i v }
  | .static i => { s with statics := s.statics.set i v }

def write (s : State) (text : String) : State := { s with output := s.output ++ text }

end State

def Action.apply (ps : Parameters) (s : State) : Action → State
  | parameter index => s.push (ps.get index)
  | integer n => s.push (.integer n)
  | set v => s.drop.store s.top v
  | get v => s.push (s.load v)
  | length => s.drop.push (.ofNat s.top.length)
  | binary op => s.drop.drop.push (op.apply s.drop.top s.top)
  | unary op => s.drop.push (op.apply s.top)
  | print f =>
    match s.stack with
    | [] => s
    | v :: _ => s.drop.write (f.render (some v))

end TermTemplate
