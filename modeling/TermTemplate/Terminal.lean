import Std.Data.TreeMap
import TermTemplate.Method

/-! Terminal types and their capabilities by name. -/
namespace TermTemplate

/-- A terminal type whose string capabilities are held as `α`. -/
structure Terminal (α : Type) where
  name : String := ""
  /-- With the aliases. -/
  names : List String := []
  description : String := ""
  flags : Std.TreeMap String Bool := {}
  numbers : Std.TreeMap String Int64 := {}
  strings : Std.TreeMap String α := {}

namespace Terminal

structure Error where
  capability : String
  reason : Template.Error
  deriving DecidableEq, Repr

def Error.message (e : Error) : String := "Capability " ++ e.capability ++ " failed to compile"

/-- Stops at the first template that is refused. -/
def compileStrings (options : Options) :
    List (String × String) → Except Error (List (String × Method))
  | [] => .ok []
  | (capability, template) :: rest =>
    match Method.compile template options with
    | .error reason => .error ⟨capability, reason⟩
    | .ok m => (compileStrings options rest).map ((capability, m) :: ·)

/-- Takes the capabilities in the order of their names; flags and numbers pass through. -/
def compile (t : Terminal String) (options : Options := {}) : Except Error (Terminal Method) :=
  (compileStrings options t.strings.toList).map fun methods =>
    { name := t.name
      names := t.names
      description := t.description
      flags := t.flags
      numbers := t.numbers
      strings := .ofList methods }

def has {α : Type} (t : Terminal α) (capability : String) : Bool := t.strings.contains capability

def method (t : Terminal Method) (capability : String) : Option Method := t.strings[capability]?

def call (t : Terminal Method) (capability : String) (params : List Value) : Option String :=
  (t.method capability).map (·.call params)

/-- A flag that is not given is off. -/
def flag {α : Type} (t : Terminal α) (capability : String) : Bool := t.flags.getD capability false

def number {α : Type} (t : Terminal α) (capability : String) : Option Int64 :=
  t.numbers[capability]?

end Terminal

end TermTemplate
