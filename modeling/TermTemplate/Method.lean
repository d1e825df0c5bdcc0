import TermTemplate.Program.Assembly
import TermTemplate.Template.Tokens

/-! A template made ready to be called. -/
namespace TermTemplate

structure Options where
  /-- Leaves padding in the output; otherwise it is dropped. -/
  keepPadding : Bool := false
  deriving DecidableEq, Repr

/-- Padding is kept unless the variable is set, be it to the empty text. -/
def Options.ofEnvironment (lookup : String → Option String) : Options :=
  ⟨(lookup "NCURSES_NO_PADDING").isNone⟩

structure Method where
  source : String
  program : Program
  deriving DecidableEq, Repr

namespace Method

def compile (source : String) (options : Options := {}) : Except Template.Error Method :=
  (Template.tokens source).map fun ts => ⟨source, .ofTokens options.keepPadding ts⟩

theorem compile_eq_ok {source : String} {options : Options} {m : Method} :
    compile source options = .ok m ↔
      ∃ ts, Template.tokens source = .ok ts ∧ ⟨source, .ofTokens options.keepPadding ts⟩ = m := by
  cases read : Template.tokens source with
  | error e => simp [compile, read, Except.map]
  | ok ts => simp [compile, read, Except.map]

theorem compile_eq_error {source : String} {options : Options} {e : Template.Error} :
    compile source options = .error e ↔ Template.tokens source = .error e := by
  cases read : Template.tokens source <;> simp [compile, read, Except.map]

theorem exists_compile {source : String} {options : Options} :
    (∃ m, compile source options = .ok m) ↔ ∃ ts, Template.tokens source = .ok ts := by
  simp only [compile_eq_ok]
  exact ⟨fun ⟨_, ts, read, _⟩ => ⟨ts, read⟩, fun ⟨ts, read⟩ => ⟨_, ts, read, rfl⟩⟩

def arity (m : Method) : Nat := m.program.arity

/-- The output, and the static variables afterwards. -/
def callWith (m : Method) (statics : Variables) (params : List Value) : String × Variables :=
  let final := m.program.execute params statics
  (final.output, final.statics)

/-- A call with static variables of its own. -/
def call (m : Method) (params : List Value) : String := (m.callWith .initial params).1

end Method

end TermTemplate
