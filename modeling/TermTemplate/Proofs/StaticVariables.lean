import Mathlib.Data.List.Basic
import TermTemplate.Proofs.RelatedRuns

/-! What a call does with static variables. A template names every static variable that it can set or
read: the others keep their values, and their values make no difference. Two templates that do not meet
in a variable can therefore be called in either order. -/
namespace TermTemplate

/-- The template sets the static variable with the given index somewhere. -/
def Template.Sets (source : String) (x : Fin 26) : Prop :=
  Holds source (.action (.set (.static x)))

def Template.Gets (source : String) (x : Fin 26) : Prop :=
  Holds source (.action (.get (.static x)))

instance (source : String) (x : Fin 26) : Decidable (Template.Sets source x) :=
  inferInstanceAs (Decidable (Template.Holds source _))

instance (source : String) (x : Fin 26) : Decidable (Template.Gets source x) :=
  inferInstanceAs (Decidable (Template.Holds source _))

namespace Variables

theorem get_set (vs : Variables) (i j : Fin 26) (v : Value) :
    (vs.set i v i.isLt).get j = if i = j then v else vs.get j := by
  by_cases same : i = j
  · subst same
    rw [if_pos rfl]
    exact Vector.getElem_set_self i.isLt
  · rw [if_neg same]
    exact Vector.getElem_set_ne i.isLt j.isLt (Fin.val_ne_of_ne same)

theorem ext_get {vs ws : Variables} (same : ∀ x, vs.get x = ws.get x) : vs = ws := by
  apply Vector.ext
  intro i inside
  exact same ⟨i, inside⟩

end Variables

theorem Action.statics_apply (ps : Parameters) (s : State) {a : Action} {x : Fin 26}
    (other : a ≠ .set (.static x)) : (a.apply ps s).statics.get x = s.statics.get x := by
  cases a with
  | set v =>
    cases v with
    | dynamic i => rfl
    | static i =>
      have apart : i ≠ x := fun same => other (same ▸ rfl)
      simp [apply, State.store, State.drop, Variables.get_set, apart]
  | print f =>
    rw [apply]
    split <;> rfl
  | _ => rfl

theorem Code.statics_run (ps : Parameters) {code : Code} {x : Fin 26}
    (unset : .action (.set (.static x)) ∉ code) (s : State) :
    (code.run ps s).statics.get x = s.statics.get x := by
  refine run_kept (P := fun t => t.statics.get x = s.statics.get x) (fun _ kept => kept)
    (fun _ _ kept => kept) (fun a member t kept => ?_) rfl
  have other : a ≠ .set (.static x) := fun same => unset (same ▸ member)
  exact (Action.statics_apply ps t other).trans kept

/-- States of two runs that started with the static variables `S` and `T`. They differ in static
variables only, and there only in values that are still those of the start. -/
structure State.Alike (S T : Variables) (s t : State) : Prop where
  stack : s.stack = t.stack
  dynamics : s.dynamics = t.dynamics
  output : s.output = t.output
  statics : ∀ x, s.statics.get x = t.statics.get x ∨
    s.statics.get x = S.get x ∧ t.statics.get x = T.get x

namespace State.Alike

variable {S T : Variables} {s t : State}

theorem store (alike : Alike S T s t) (v : Value) (x : Variable) :
    Alike S T (s.store v x) (t.store v x) := by
  cases x with
  | dynamic i =>
    have dynamics : s.dynamics.set i v = t.dynamics.set i v := by rw [alike.dynamics]
    exact ⟨alike.stack, dynamics, alike.output, alike.statics⟩
  | static i =>
    refine ⟨alike.stack, alike.dynamics, alike.output, fun j => ?_⟩
    simp only [State.store, Variables.get_set]
    split
    · exact .inl rfl
    · exact alike.statics j

theorem congruence : Congruence (Alike S T) where
  stack alike := alike.stack
  drop alike := { alike with stack := congrArg List.tail alike.stack }
  push v alike := { alike with stack := congrArg (v :: ·) alike.stack }
  store v x alike := alike.store v x
  write text alike := { alike with output := congrArg (· ++ text) alike.output }

theorem load (alike : Alike S T s t) {x : Variable} (same : ∀ i, x = .static i → S.get i = T.get i) :
    s.load x = t.load x := by
  cases x with
  | dynamic i => rw [State.load, State.load, alike.dynamics]
  | static i =>
    rcases alike.statics i with equal | ⟨left, right⟩
    · exact equal
    · exact left.trans ((same i rfl).trans right.symm)

end State.Alike

theorem Code.alike_run (ps : Parameters) {code : Code} {S T : Variables}
    (same : ∀ x, .action (.get (.static x)) ∈ code → S.get x = T.get x) {s t : State}
    (alike : s.Alike S T t) : (code.run ps s).Alike S T (code.run ps t) := by
  refine State.Alike.congruence.run (fun _ _ => rfl) (fun x member u v alike => ?_) alike
  exact alike.load fun i static => same i (static ▸ member)

namespace Method

section Calls

variable {source : String} {options : Options} {m : Method}

theorem callWith_unset (compiled : compile source options = .ok m) {x : Fin 26}
    (unset : ¬Template.Sets source x) (statics : Variables) (params : List Value) :
    (m.callWith statics params).2.get x = statics.get x := by
  have absent : .action (.set (.static x)) ∉ m.program.code :=
    fun member => unset (holds_of_mem_code compiled member)
  exact Code.statics_run _ absent _

theorem callWith_alike (compiled : compile source options = .ok m) {S T : Variables}
    (same : ∀ x, Template.Gets source x → S.get x = T.get x) (params : List Value) :
    (m.callWith S params).1 = (m.callWith T params).1 ∧
    ∀ x, (m.callWith S params).2.get x = (m.callWith T params).2.get x ∨
      (m.callWith S params).2.get x = S.get x ∧ (m.callWith T params).2.get x = T.get x := by
  have start : State.Alike S T { statics := S } { statics := T } :=
    ⟨rfl, rfl, rfl, fun _ => .inr ⟨rfl, rfl⟩⟩
  have final : (m.program.execute params S).Alike S T (m.program.execute params T) :=
    Code.alike_run _ (fun x member => same x (holds_of_mem_code compiled member)) start
  exact ⟨final.output, final.statics⟩

end Calls

/-- The output of one method, and what the other gets to see, do not depend on the order. -/
theorem callWith_after {source source' : String} {options options' : Options} {m n : Method}
    (compiled : compile source options = .ok m) (compiled' : compile source' options' = .ok n)
    (apart : ∀ x, Template.Sets source' x → ¬Template.Gets source x) (statics : Variables)
    (params params' : List Value) :
    let between := (n.callWith statics params').2
    (m.callWith between params).1 = (m.callWith statics params).1 ∧
    ∀ x, (m.callWith between params).2.get x = (m.callWith statics params).2.get x ∨
      (m.callWith between params).2.get x = between.get x ∧
      (m.callWith statics params).2.get x = statics.get x := by
  apply callWith_alike compiled
  intro x read
  exact callWith_unset compiled' (fun set => apart x set read) statics params'

/-- A call leaves the static variables alone that its template does not set, and those that it does
not read make no difference to it. Two methods of which neither sets what the other reads or sets can
be called in either order. -/
theorem statics_separate {source : String} {options : Options} {m : Method}
    (compiled : compile source options = .ok m) :
    (∀ params statics x, ¬Template.Sets source x →
      (m.callWith statics params).2.get x = statics.get x) ∧
    (∀ params (S T : Variables), (∀ x, Template.Gets source x → S.get x = T.get x) →
      (m.callWith S params).1 = (m.callWith T params).1 ∧
      ∀ x, (m.callWith S params).2.get x = (m.callWith T params).2.get x ∨
        (m.callWith S params).2.get x = S.get x ∧ (m.callWith T params).2.get x = T.get x) ∧
    (∀ source' options' n, compile source' options' = .ok n →
      (∀ x, Template.Sets source x → ¬Template.Gets source' x ∧ ¬Template.Sets source' x) →
      (∀ x, Template.Sets source' x → ¬Template.Gets source x ∧ ¬Template.Sets source x) →
      ∀ params params' statics,
        (m.callWith (n.callWith statics params').2 params).1 = (m.callWith statics params).1 ∧
        (n.callWith (m.callWith statics params).2 params').1 = (n.callWith statics params').1 ∧
        (m.callWith (n.callWith statics params').2 params).2 =
          (n.callWith (m.callWith statics params).2 params').2) := by
  refine ⟨fun params statics x unset => callWith_unset compiled unset statics params,
    fun params S T same => callWith_alike compiled same params, ?_⟩
  intro source' options' n compiled' apart apart' params params' statics
  obtain ⟨output, finals⟩ := callWith_after compiled compiled' (fun x set => (apart' x set).1) statics
    params params'
  obtain ⟨output', finals'⟩ := callWith_after compiled' compiled (fun x set => (apart x set).1) statics
    params' params
  refine ⟨output, output', Variables.ext_get fun x => ?_⟩
  by_cases set : Template.Sets source x
  · -- The other method does not touch the variable, first or second.
    have unset : ¬Template.Sets source' x := (apart x set).2
    rw [callWith_unset compiled' unset _ params']
    rcases finals x with same | ⟨kept, start⟩
    · exact same
    · rw [kept, start, callWith_unset compiled' unset]
  · rw [callWith_unset compiled set _ params]
    rcases finals' x with same | ⟨kept, start⟩
    · exact same.symm
    · rw [kept, start, callWith_unset compiled set]

/-- One method sets `A` and reads `A` and `C`, the other sets `B` and reads `B` and `C`. -/
theorem statics_separate_letters :
    ∃ m n, compile "%gC%d%p1%PA%gA%d" = .ok m ∧ compile "%gB%gC%+%d%p1%PB" = .ok n ∧
      (∀ params statics, (m.callWith statics params).2.get 1 = statics.get 1) ∧
      (∀ params (S T : Variables), S.get 0 = T.get 0 → S.get 2 = T.get 2 →
        (m.callWith S params).1 = (m.callWith T params).1) ∧
      (m.callWith (n.callWith .initial [.integer 7]).2 [.integer 5]).1 = "05" ∧
      (n.callWith (m.callWith .initial [.integer 5]).2 [.integer 7]).1 = "0" ∧
      ∀ params params' statics,
        (m.callWith (n.callWith statics params').2 params).2 =
          (n.callWith (m.callWith statics params).2 params').2 := by
  have read : Template.tokens "%gC%d%p1%PA%gA%d" =
      .ok [.action (.get (.static 2)), .action (.print ⟨.decimal, {}⟩), .action (.parameter 0),
        .action (.set (.static 0)), .action (.get (.static 0)), .action (.print ⟨.decimal, {}⟩)] := by
    decide +kernel
  have read' : Template.tokens "%gB%gC%+%d%p1%PB" =
      .ok [.action (.get (.static 1)), .action (.get (.static 2)), .action (.binary .add),
        .action (.print ⟨.decimal, {}⟩), .action (.parameter 0), .action (.set (.static 1))] := by
    decide +kernel
  have compiled : compile "%gC%d%p1%PA%gA%d" = .ok _ := compile_eq_ok.mpr ⟨_, read, rfl⟩
  have compiled' : compile "%gB%gC%+%d%p1%PB" = .ok _ := compile_eq_ok.mpr ⟨_, read', rfl⟩
  obtain ⟨frame, dependence, order⟩ := statics_separate compiled
  have either := order _ _ _ compiled' (by decide +kernel) (by decide +kernel)
  have reads (x : Fin 26) : Template.Gets "%gC%d%p1%PA%gA%d" x → x = 0 ∨ x = 2 := by
    revert x
    decide +kernel
  refine ⟨_, _, compiled, compiled', ?_, ?_, ?_, ?_, ?_⟩
  · exact fun params statics => frame params statics 1 (by decide +kernel)
  · intro params S T atA atC
    refine (dependence params S T fun x read => ?_).1
    rcases reads x read with rfl | rfl
    · exact atA
    · exact atC
  · exact (either _ _ _).1.trans (by decide +kernel)
  · exact (either _ _ _).2.1.trans (by decide +kernel)
  · exact fun params params' statics => (either params params' statics).2.2

end Method

end TermTemplate
