import TermTemplate.Program.Assembly

/-! Code for a template, made in the order of its tokens. A branch is made before it is known where
it leads: until then its index is kept as a site of its conditional, and the mark that the branch
waits for gives it its target. Targets are indexes here, and the code is run by its indexes: that a
run ends, or does not come back to a line, depends on them. -/
namespace TermTemplate

/-- An instruction at its place in the code. -/
inductive Line
  | emit (text : String)
  | action (a : Action)
  /-- The target is missing as long as it is not known. -/
  | branchIfFalse (target : Option Nat)
  | jump (target : Option Nat)
  deriving DecidableEq, Repr

/-- Where a branch leads, if the line is one and its target is known. -/
def Line.target? : Line → Option Nat
  | branchIfFalse target | jump target => target
  | _ => none

def Line.isBranch : Line → Bool
  | branchIfFalse _ | jump _ => true
  | _ => false

def Instruction.line (index : Nat) : Instruction → Line
  | emit text => .emit text
  | action a => .action a
  | branchIfFalse skip => .branchIfFalse ((branchIfFalse skip).target? index)
  | jump skip => .jump ((jump skip).target? index)

def Code.lines : Nat → Code → List Line
  | _, [] => []
  | index, i :: code => i.line index :: Code.lines (index + 1) code

/-- The sites of an open conditional. -/
structure Frame where
  /-- Tests that wait for the next `%e` or `%;`. -/
  tests : List Nat := []
  /-- Ends of arms, which wait for `%;`. -/
  ends : List Nat := []
  deriving DecidableEq, Repr

def Frame.sites (f : Frame) : List Nat := f.tests ++ f.ends

structure Draft where
  lines : List Line := []
  /-- The innermost conditional first. -/
  frames : List Frame := []
  /-- Text is kept apart from the lines before this index. -/
  label : Nat := 0
  /-- The sites that have been given targets, in that order. -/
  resolved : List Nat := []
  increment : Bool := false
  arity : Nat := 0
  deriving DecidableEq, Repr

namespace Draft

def push (d : Draft) (l : Line) : Draft := { d with lines := d.lines ++ [l] }

/-- The last line, if it is text that more text can be joined to, and the lines before it. -/
def lastText? (d : Draft) : Option (List Line × String) :=
  match d.lines.getLast? with
  | some (.emit text) => if d.label < d.lines.length then some (d.lines.dropLast, text) else none
  | _ => none

def emit (d : Draft) (text : String) : Draft :=
  match d.lastText? with
  | some (lines, previous) => { d with lines := lines ++ [.emit (previous ++ text)] }
  | none => d.push (.emit text)

/-- Gives one site its target. Fails where there is no line, or one that is no branch. -/
def aim? (target : Nat) (d : Draft) (site : Nat) : Option Draft :=
  match d.lines[site]? with
  | some (.branchIfFalse _) => some
      { d with lines := d.lines.set site (.branchIfFalse (some target))
               resolved := d.resolved ++ [site] }
  | some (.jump _) => some
      { d with lines := d.lines.set site (.jump (some target))
               resolved := d.resolved ++ [site] }
  | _ => none

/-- Makes all sites lead to the line that is to come next. -/
def resolve? (d : Draft) (sites : List Nat) : Option Draft :=
  (sites.foldlM (aim? d.lines.length) d).map fun r => { r with label := d.lines.length }

/-- Ends the innermost conditional. With none open, there is nothing to do. -/
def close? (d : Draft) : Option Draft :=
  match d.frames with
  | [] => some d
  | f :: frames => { d with frames }.resolve? f.sites

def test (d : Draft) : Draft :=
  let site := d.lines.length
  let frames :=
    match d.frames with
    | [] => [{ tests := [site] }]
    | f :: frames => { f with tests := f.tests ++ [site] } :: frames
  { d.push (.branchIfFalse none) with frames }

/-- The arm that ends here gets a jump, and the tests before it lead to behind that jump. -/
def alternative? (d : Draft) : Option Draft :=
  match d.frames with
  | [] => some d
  | f :: frames =>
    let site := d.lines.length
    { d.push (.jump none) with frames := ⟨[], f.ends ++ [site]⟩ :: frames }.resolve? f.tests

def token? (keepPadding : Bool) (d : Draft) : Token → Option Draft
  | .literal text => some (d.emit text)
  | .padding text => some (if keepPadding then d.emit text else d)
  | .action a => some { d.push (.action a) with arity := max d.arity (Token.action a).arity }
  | .increment => some { d with increment := true }
  | .beginIf => some { d with frames := {} :: d.frames }
  | .thenArm => some d.test
  | .elseArm => d.alternative?
  | .endIf => d.close?

def finish? (d : Draft) : Option Draft := d.frames.foldlM (fun d _ => d.close?) d

def ofTokens? (keepPadding : Bool) (ts : List Token) : Option Draft :=
  (ts.foldlM (token? keepPadding) {}).bind finish?

end Draft

/-- What one line does to the state, and the index to go on with. A branch cannot be followed while
its target is not known. -/
def Line.run? (ps : Parameters) (index : Nat) (s : State) : Line → Option (Nat × State)
  | emit text => some (index + 1, s.write text)
  | action a => some (index + 1, a.apply ps s)
  | branchIfFalse target =>
    if s.top.isTruthy then some (index + 1, s.drop) else target.map (·, s.drop)
  | jump target => target.map (·, s)

/-- A run from an index and a state, with the indexes that it visits, to the state where it stops
because there is no line. -/
inductive Visits (ps : Parameters) (lines : List Line) : Nat → State → List Nat → State → Prop
  | stop {index : Nat} {s : State} (outside : lines[index]? = none) : Visits ps lines index s [] s
  | step {index next : Nat} {s after final : State} {l : Line} {visited : List Nat}
      (fetch : lines[index]? = some l) (run : l.run? ps index s = some (next, after))
      (rest : Visits ps lines next after visited final) :
      Visits ps lines index s (index :: visited) final

end TermTemplate
