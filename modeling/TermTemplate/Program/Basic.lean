import TermTemplate.Machine

/-! Compiled templates: straight code in which a branch can only skip ahead. -/
namespace TermTemplate

inductive Instruction
  | emit (text : String)
  | action (a : Action)
  /-- Takes a value from the stack and, unless it is true, skips instructions behind this one. -/
  | branchIfFalse (skip : Nat)
  | jump (skip : Nat)
  deriving DecidableEq, Repr

/-- Where the instruction at an index continues when it skips, as an index. -/
def Instruction.target? (index : Nat) : Instruction → Option Nat
  | branchIfFalse skip | jump skip => some (index + 1 + skip)
  | _ => none

abbrev Code := List Instruction

structure Program where
  /-- The first two parameters are incremented. -/
  increment : Bool
  /-- The number of parameters that the program can read. -/
  arity : Nat
  code : Code
  deriving DecidableEq, Repr

/-- Every instruction leaves less code to run, whatever it skips. -/
def Code.run (ps : Parameters) : Code → State → State
  | [], s => s
  | .emit text :: code, s => Code.run ps code (s.write text)
  | .action a :: code, s => Code.run ps code (a.apply ps s)
  | .branchIfFalse skip :: code, s =>
    Code.run ps (if s.top.isTruthy then code else code.drop skip) s.drop
  | .jump skip :: code, s => Code.run ps (code.drop skip) s
termination_by code => code.length
decreasing_by
  all_goals simp only [List.length_cons]
  · omega
  · omega
  · split
    · omega
    · simp only [List.length_drop]; omega
  · simp only [List.length_drop]; omega

namespace Program

/-- Static variables are those that `statics` holds; the stack and the others start afresh. -/
def execute (p : Program) (params : List Value) (statics : Variables) : State :=
  p.code.run ⟨params, p.increment⟩ { statics }

end Program

end TermTemplate
