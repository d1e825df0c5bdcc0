import TermTemplate.Method

/-! Two runs of the same code. They stay related as long as every action finds the same to read on both
sides, and what an action can read is named in the template. -/
namespace TermTemplate

/-- What relates two states, makes them branch alike and is kept by everything that the code does
relates the states after it. -/
theorem Code.run_related {ps qs : Parameters} {R : State → State → Prop}
    (tops : ∀ s t, R s t → s.top = t.top) (drops : ∀ s t, R s t → R s.drop t.drop)
    (writes : ∀ text s t, R s t → R (s.write text) (t.write text)) {code : Code}
    (acts : ∀ a, .action a ∈ code → ∀ s t, R s t → R (a.apply ps s) (a.apply qs t))
    {s t : State} (related : R s t) : R (code.run ps s) (code.run qs t) := by
  fun_induction Code.run ps code s generalizing t with
  | case1 => simpa [Code.run] using related
  | case2 text code _ ih =>
    rw [Code.run]
    exact ih (fun a member => acts a (.tail _ member)) (writes text _ _ related)
  | case3 a code _ ih =>
    rw [Code.run]
    exact ih (fun b member => acts b (.tail _ member)) (acts a (.head _) _ _ related)
  | case4 skip code _ ih =>
    rw [Code.run, ← tops _ _ related]
    refine ih (fun a member => acts a (.tail _ ?_)) (drops _ _ related)
    split at member
    · exact member
    · exact List.mem_of_mem_drop member
  | case5 skip code _ ih =>
    rw [Code.run]
    exact ih (fun a member => acts a (.tail _ (List.mem_of_mem_drop member))) related

/-- The same for a property of one state. -/
theorem Code.run_kept {ps : Parameters} {P : State → Prop} (drops : ∀ s, P s → P s.drop)
    (writes : ∀ text s, P s → P (s.write text)) {code : Code}
    (acts : ∀ a, .action a ∈ code → ∀ s, P s → P (a.apply ps s)) {s : State} (start : P s) :
    P (code.run ps s) := by
  have related : code.run ps s = code.run ps s ∧ P (code.run ps s) := by
    apply run_related (R := fun s t => s = t ∧ P s)
    · rintro s _ ⟨rfl, _⟩
      rfl
    · rintro s _ ⟨rfl, kept⟩
      exact ⟨rfl, drops s kept⟩
    · rintro text s _ ⟨rfl, kept⟩
      exact ⟨rfl, writes text s kept⟩
    · rintro a member s _ ⟨rfl, kept⟩
      exact ⟨rfl, acts a member s kept⟩
    · exact ⟨rfl, start⟩
  exact related.2

/-- Related states have the same stack, and stay related under whatever is done to both of them. -/
structure State.Congruence (R : State → State → Prop) : Prop where
  stack : ∀ {s t}, R s t → s.stack = t.stack
  drop : ∀ {s t}, R s t → R s.drop t.drop
  push : ∀ {s t} v, R s t → R (s.push v) (t.push v)
  store : ∀ {s t} v x, R s t → R (s.store v x) (t.store v x)
  write : ∀ {s t} text, R s t → R (s.write text) (t.write text)

namespace State.Congruence

theorem eq : Congruence Eq where
  stack same := congrArg State.stack same
  drop same := congrArg State.drop same
  push v same := congrArg (·.push v) same
  store v x same := congrArg (·.store v x) same
  write text same := congrArg (·.write text) same

variable {R : State → State → Prop} {ps qs : Parameters}

theorem top (congruence : Congruence R) {s t : State} (related : R s t) : s.top = t.top := by
  rw [State.top, State.top, congruence.stack related]

/-- One action: parameters and variables are all that it can read besides the stack. -/
theorem apply (congruence : Congruence R) {s t : State} (related : R s t) {a : Action}
    (parameters : ∀ index, a = .parameter index → ps.get index = qs.get index)
    (loads : ∀ x, a = .get x → s.load x = t.load x) : R (a.apply ps s) (a.apply qs t) := by
  have dropped := congruence.drop related
  cases a with
  | parameter index =>
    simp only [Action.apply, parameters index rfl]
    exact congruence.push _ related
  | integer n => exact congruence.push _ related
  | set x =>
    simp only [Action.apply, congruence.top related]
    exact congruence.store _ x dropped
  | get x =>
    simp only [Action.apply, loads x rfl]
    exact congruence.push _ related
  | length =>
    simp only [Action.apply, congruence.top related]
    exact congruence.push _ dropped
  | binary op =>
    simp only [Action.apply, congruence.top related, congruence.top dropped]
    exact congruence.push _ (congruence.drop dropped)
  | unary op =>
    simp only [Action.apply, congruence.top related]
    exact congruence.push _ dropped
  | print f =>
    simp only [Action.apply, congruence.stack related]
    split
    · exact related
    · exact congruence.write _ dropped

theorem run (congruence : Congruence R) {code : Code}
    (parameters : ∀ index, .action (.parameter index) ∈ code → ps.get index = qs.get index)
    (loads : ∀ x, .action (.get x) ∈ code → ∀ s t, R s t → s.load x = t.load x) {s t : State}
    (related : R s t) : R (code.run ps s) (code.run qs t) := by
  refine Code.run_related (fun _ _ => congruence.top) (fun _ _ => congruence.drop)
    (fun text _ _ => congruence.write text) (fun a member u v related => ?_) related
  refine congruence.apply related (fun index read => ?_) fun x read => ?_
  · exact parameters index (read ▸ member)
  · exact loads x (read ▸ member) u v related

end State.Congruence

/-- Code cannot tell parameters apart that are alike wherever it reads them. -/
theorem Code.run_congr {ps qs : Parameters} {code : Code}
    (same : ∀ index, .action (.parameter index) ∈ code → ps.get index = qs.get index) (s : State) :
    code.run ps s = code.run qs s :=
  State.Congruence.eq.run same (fun x _ _ _ equal => congrArg (·.load x) equal) rfl

namespace Fragment

theorem mem_emit {f : Fragment} {text : String} {a : Action}
    (member : .action a ∈ (f.emit text).code) : .action a ∈ f.code := by
  rw [emit] at member
  split at member
  · rename_i head
    simpa [head] using member
  · simpa [cons] using member

theorem mem_test {f : Fragment} {a : Action} (member : .action a ∈ f.test.code) :
    .action a ∈ f.code := by
  simpa [test, cons] using member

theorem mem_alternative {f : Fragment} {a : Action} (member : .action a ∈ f.alternative.code) :
    .action a ∈ f.code := by
  simpa [alternative, cons] using member

theorem mem_ofTokens {keepPadding : Bool} {depth : Nat} {ts : List Token} {a : Action}
    (member : .action a ∈ (ofTokens keepPadding depth ts).code) : .action a ∈ ts := by
  fun_induction ofTokens keepPadding depth ts with
  | case1 => cases member
  | case2 _ _ _ ih => exact .tail _ (ih (mem_emit member))
  | case3 _ _ _ _ ih => exact .tail _ (ih (mem_emit member))
  | case4 _ _ _ _ ih => exact .tail _ (ih member)
  | case5 _ b _ ih =>
    rcases List.mem_cons.mp member with same | member
    · cases same
      exact .head _
    · exact .tail _ (ih member)
  | case6 _ _ ih => exact .tail _ (ih member)
  | case7 _ _ ih => exact .tail _ (ih member)
  | case8 _ ih => exact .tail _ (ih (mem_test member))
  | case9 _ _ ih => exact .tail _ (ih (mem_test member))
  | case10 _ ih => exact .tail _ (ih member)
  | case11 _ _ ih => exact .tail _ (ih (mem_alternative member))
  | case12 _ ih => exact .tail _ (ih member)
  | case13 _ _ ih => exact .tail _ (ih member)

end Fragment

theorem Method.holds_of_mem_code {source : String} {options : Options} {m : Method}
    (compiled : compile source options = .ok m) {a : Action} (member : .action a ∈ m.program.code) :
    Template.Holds source (.action a) := by
  obtain ⟨ts, read, rfl⟩ := compile_eq_ok.mp compiled
  exact (Template.holds_iff read).mpr (Fragment.mem_ofTokens member)

end TermTemplate
