import TermTemplate.Program.Basic
import TermTemplate.Template.Token

/-! Code for a template, made from its end, so that the length of every skip is known when its
instruction is made.

The marks of conditionals may come in any order. `%t` outside a conditional opens one, `%e` and `%;`
outside are ignored, and conditionals left open end with the template. -/
namespace TermTemplate

/-- How many instructions away an open conditional continues. -/
structure Exit where
  /-- Behind the next `%e` or `%;`, where a test that fails goes on. -/
  next : Nat
  /-- Behind `%;`, where an arm that was run goes on. -/
  finish : Nat
  deriving DecidableEq, Repr

def Exit.further (e : Exit) : Exit := ⟨e.next + 1, e.finish + 1⟩

/-- Code for the rest of a template. -/
structure Fragment where
  code : Code
  /-- For each conditional that is open where the fragment starts, the innermost first. -/
  exits : List Exit
  /-- A conditional ends where the fragment starts, so text in front is kept apart. -/
  sealed : Bool
  deriving DecidableEq, Repr

namespace Fragment

def ending (depth : Nat) : Fragment := ⟨[], List.replicate depth ⟨0, 0⟩, false⟩

def cons (i : Instruction) (f : Fragment) : Fragment :=
  ⟨i :: f.code, f.exits.map Exit.further, false⟩

/-- Text joins text that follows it. -/
def emit (text : String) (f : Fragment) : Fragment :=
  match f.sealed, f.code with
  | false, .emit next :: code => { f with code := .emit (text ++ next) :: code }
  | _, _ => f.cons (.emit text)

/-- The exit of the innermost conditional; with none open, the place right here. -/
def exit (f : Fragment) : Exit := f.exits.headD ⟨0, 0⟩

/-- Puts `%?` in front, where its conditional is not open yet. -/
def opening (f : Fragment) : Fragment := { f with exits := f.exits.tail }

def test (f : Fragment) : Fragment := f.cons (.branchIfFalse f.exit.next)

/-- Puts `%e` in front: an arm that ends here goes on behind the conditional. -/
def alternative (f : Fragment) : Fragment :=
  cons (.jump f.exit.finish) { f with exits := { f.exit with next := 0 } :: f.exits.tail }

/-- Puts `%;` in front, so there is one more conditional to leave. -/
def closing (f : Fragment) : Fragment := { f with exits := ⟨0, 0⟩ :: f.exits, sealed := true }

/-- Code for tokens that `depth` open conditionals surround. -/
def ofTokens (keepPadding : Bool) : Nat → List Token → Fragment
  | depth, [] => .ending depth
  | depth, .literal text :: ts => (ofTokens keepPadding depth ts).emit text
  | depth, .padding text :: ts =>
    if keepPadding then (ofTokens keepPadding depth ts).emit text else ofTokens keepPadding depth ts
  | depth, .action a :: ts => (ofTokens keepPadding depth ts).cons (.action a)
  | depth, .increment :: ts => ofTokens keepPadding depth ts
  | depth, .beginIf :: ts => (ofTokens keepPadding (depth + 1) ts).opening
  | 0, .thenArm :: ts => (ofTokens keepPadding 1 ts).test.opening
  | depth + 1, .thenArm :: ts => (ofTokens keepPadding (depth + 1) ts).test
  | 0, .elseArm :: ts => ofTokens keepPadding 0 ts
  | depth + 1, .elseArm :: ts => (ofTokens keepPadding (depth + 1) ts).alternative
  | 0, .endIf :: ts => ofTokens keepPadding 0 ts
  | depth + 1, .endIf :: ts => (ofTokens keepPadding depth ts).closing

@[simp] theorem length_exits_cons (i : Instruction) (f : Fragment) :
    (f.cons i).exits.length = f.exits.length := by
  simp [cons]

@[simp] theorem length_exits_emit (text : String) (f : Fragment) :
    (f.emit text).exits.length = f.exits.length := by
  unfold emit
  split <;> simp

/-- What holds at the end of a template and is kept by everything that is put in front holds of the
code of all tokens. -/
theorem forall_ofTokens {p : Fragment → Prop} (ended : ∀ depth, p (ending depth))
    (emitted : ∀ f text, p f → p (f.emit text)) (acted : ∀ f a, p f → p (f.cons (.action a)))
    (opened : ∀ f, p f → p f.opening) (tested : ∀ f, p f → p f.test)
    (alternated : ∀ f, p f → p f.alternative) (closed : ∀ f, p f → p f.closing)
    (keepPadding : Bool) (depth : Nat) (ts : List Token) : p (ofTokens keepPadding depth ts) := by
  fun_induction ofTokens keepPadding depth ts with
  | case1 depth => exact ended depth
  | case2 _ text _ ih => exact emitted _ text ih
  | case3 _ text _ _ ih => exact emitted _ text ih
  | case4 _ _ _ _ ih => exact ih
  | case5 _ a _ ih => exact acted _ a ih
  | case6 _ _ ih => exact ih
  | case7 _ _ ih => exact opened _ ih
  | case8 _ ih => exact opened _ (tested _ ih)
  | case9 _ _ ih => exact tested _ ih
  | case10 _ ih => exact ih
  | case11 _ _ ih => exact alternated _ ih
  | case12 _ ih => exact ih
  | case13 _ _ ih => exact closed _ ih

/-- Every mark finds the exit of its conditional. -/
theorem length_exits_ofTokens (keepPadding : Bool) (depth : Nat) (ts : List Token) :
    (ofTokens keepPadding depth ts).exits.length = depth := by
  fun_induction ofTokens keepPadding depth ts with
  | case1 => simp [ending]
  | case2 _ _ _ ih => simp [ih]
  | case3 _ _ _ _ ih => simp [ih]
  | case4 _ _ _ _ ih => exact ih
  | case5 _ _ _ ih => simp [ih]
  | case6 _ _ ih => exact ih
  | case7 _ _ ih => simp [opening, ih]
  | case8 _ ih => simp [opening, test, ih]
  | case9 _ _ ih => simp [test, ih]
  | case10 _ ih => exact ih
  | case11 _ _ ih => simp [alternative, ih]
  | case12 _ ih => exact ih
  | case13 _ _ ih => simp [closing, ih]

end Fragment

def Token.arity : Token → Nat
  | action (.parameter index) => index + 1
  | _ => 0

def Program.ofTokens (keepPadding : Bool) (ts : List Token) : Program where
  increment := ts.contains .increment
  arity := (ts.map Token.arity).foldl max 0
  code := (Fragment.ofTokens keepPadding 0 ts).code

theorem foldl_max_le_iff {ns : List Nat} {m b : Nat} :
    ns.foldl max m ≤ b ↔ m ≤ b ∧ ∀ n ∈ ns, n ≤ b := by
  induction ns generalizing m with
  | nil => simp
  | cons n ns ih => simp only [List.foldl_cons, ih, Nat.max_le, List.forall_mem_cons, and_assoc]

namespace Program

/-- The arity is the least bound for the parameters that the tokens name. -/
theorem arity_ofTokens_le_iff {keepPadding : Bool} {ts : List Token} {bound : Nat} :
    (ofTokens keepPadding ts).arity ≤ bound ↔
      ∀ index, .action (.parameter index) ∈ ts → index < bound := by
  have named : (ofTokens keepPadding ts).arity ≤ bound ↔ ∀ t ∈ ts, t.arity ≤ bound := by
    simp [ofTokens, foldl_max_le_iff]
  rw [named]
  constructor
  · intro bounded index member
    exact bounded _ member
  · intro bounded t member
    cases t with
    | action a =>
      cases a with
      | parameter index => exact bounded index member
      | _ => exact Nat.zero_le _
    | _ => exact Nat.zero_le _

theorem arity_ofTokens_congr {keepPadding : Bool} {ts us : List Token}
    (same : ∀ a, .action a ∈ ts ↔ .action a ∈ us) :
    (ofTokens keepPadding ts).arity = (ofTokens keepPadding us).arity := by
  have bounds (n : Nat) : (ofTokens keepPadding ts).arity ≤ n ↔
      (ofTokens keepPadding us).arity ≤ n := by
    simp only [arity_ofTokens_le_iff, same]
  exact Nat.le_antisymm ((bounds _).mpr (Nat.le_refl _)) ((bounds _).mp (Nat.le_refl _))

end Program

end TermTemplate
