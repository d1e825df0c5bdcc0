import TermTemplate.Checked.Reading
import TermTemplate.Checked.Rendering
import TermTemplate.Method
import TermTemplate.Program.Draft

/-! A whole call with every operation checked: reading the template, making its code in the order of
the tokens, and running the lines by their indexes. -/
namespace TermTemplate.Checked

def load? (s : State) : Variable → Option Value
  | .dynamic i => s.dynamics.toArray[i.val]?
  | .static i => s.statics.toArray[i.val]?

def store? (s : State) (v : Value) : Variable → Option State
  | .dynamic i => do some (s.store v (.dynamic (← index? 26 i.val)))
  | .static i => do some (s.store v (.static (← index? 26 i.val)))

def binary? : BinaryOp → Value → Value → Option Value
  | .equal, .text s, .text t => some (.ofBool (s == t))
  | op, x, y => do some (.integer (op.onWords (← toInteger? x) (← toInteger? y)))

def act? (ps : Parameters) (s : State) : Action → Option State
  | .set x => store? s.drop s.top x
  | .get x => do some (s.push (← load? s x))
  | .binary op => do some (s.drop.drop.push (← binary? op s.drop.top s.top))
  | .unary op => do some (s.drop.push (.integer (op.onWord (← toInteger? s.top))))
  | .print f =>
    match s.stack with
    | [] => some s
    | v :: _ => do some (s.drop.write (String.ofList (← renderChars? f v)))
  | a => some (a.apply ps s)

/-- The index to go on with. There is none while a branch has no target. -/
def runLine? (ps : Parameters) (index : Nat) (s : State) : Line → Option (Nat × State)
  | .emit text => some (index + 1, s.write text)
  | .action a => do some (index + 1, ← act? ps s a)
  | .branchIfFalse target =>
    if s.top.isTruthy then some (index + 1, s.drop) else target.map (·, s.drop)
  | .jump target => target.map (·, s)

/-- The run ends where there is no line. A line that did not lead forward would be a fault as well. -/
def runLines? (ps : Parameters) (lines : List Line) (index : Nat) (s : State) : Option State :=
  match _fetched : lines[index]? with
  | none => some s
  | some l =>
    match runLine? ps index s l with
    | none => none
    | some (next, s) => if index < next then runLines? ps lines next s else none
termination_by lines.length - index
decreasing_by
  have inside := (List.getElem?_eq_some_iff.mp _fetched).1
  omega

/-- The output and the static variables of a call, if the template is accepted. -/
def call? (source : String) (options : Options) (statics : Variables) (params : List Value) :
    Option (Except Template.Error (String × Variables)) := do
  match ← tokens? source with
  | .error e => some (.error e)
  | .ok ts =>
    let d ← Draft.ofTokens? options.keepPadding ts
    let final ← runLines? ⟨params, d.increment⟩ d.lines 0 { statics }
    some (.ok (final.output, final.statics))

end TermTemplate.Checked
