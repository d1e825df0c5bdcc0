import TermTemplate.Checked.Running
import TermTemplate.Proofs.CheckedReading
import TermTemplate.Proofs.CheckedRendering
import TermTemplate.Proofs.ForwardRun

/-! A call meets no operation outside its domain, and gives what it gives without the checks. -/
namespace TermTemplate

namespace Checked

theorem load?_eq (s : State) (x : Variable) : load? s x = some (s.load x) := by
  cases x with
  | dynamic i => exact Array.getElem?_eq_getElem (by simp)
  | static i => exact Array.getElem?_eq_getElem (by simp)

theorem store?_eq (s : State) (v : Value) (x : Variable) : store? s v x = some (s.store v x) := by
  cases x with
  | dynamic i =>
    rw [store?, index?_of_lt i.isLt]
    rfl
  | static i =>
    rw [store?, index?_of_lt i.isLt]
    rfl

theorem binary?_eq (op : BinaryOp) (x y : Value) : binary? op x y = some (op.apply x y) := by
  rw [binary?.eq_def, BinaryOp.apply.eq_def]
  split
  · rfl
  · simp [toInteger?_eq]

theorem act?_eq (ps : Parameters) (s : State) (a : Action) : act? ps s a = some (a.apply ps s) := by
  cases a with
  | parameter index => rfl
  | integer n => rfl
  | set x => exact store?_eq _ _ x
  | get x =>
    rw [act?, load?_eq]
    rfl
  | length => rfl
  | binary op =>
    rw [act?, binary?_eq]
    rfl
  | unary op =>
    rw [act?, toInteger?_eq]
    rfl
  | print f =>
    cases stack : s.stack with
    | nil => simp [act?, Action.apply, stack]
    | cons v rest => simp [act?, Action.apply, stack, renderChars?_eq, Field.render]

theorem runLine?_eq (ps : Parameters) (index : Nat) (s : State) (l : Line) :
    runLine? ps index s l = l.run? ps index s := by
  cases l with
  | action a =>
    rw [runLine?, act?_eq]
    rfl
  | _ => rfl

theorem runLines?_of_visits {ps : Parameters} {lines : List Line} (forward : Forward lines) {index : Nat}
    {s final : State} {visited : List Nat} (visits : Visits ps lines index s visited final) :
    runLines? ps lines index s = some final := by
  induction visits with
  | stop outside =>
    rw [runLines?]
    split
    · rfl
    · rename_i fetched
      rw [outside] at fetched
      cases fetched
  | step fetch run rest ih =>
    rw [runLines?]
    split
    · rename_i outside
      rw [fetch] at outside
      cases outside
    · rename_i fetched
      rw [fetch] at fetched
      cases fetched
      -- A forward line passes the test that makes the run end.
      simp only [runLine?_eq, run, (Visits.run?_forward forward fetch run).1, if_true]
      exact ih

end Checked

theorem Draft.parameters_within {source : String} {ts : List Token}
    (read : Template.tokens source = .ok ts) {keepPadding : Bool} {d : Draft}
    (made : ofTokens? keepPadding ts = some d) :
    d.arity ≤ 9 ∧ ∀ index, .action (.parameter index) ∈ ts → index < d.arity := by
  obtain ⟨same, again, _, _, _, _, arity⟩ := ofTokens?_eq keepPadding ts
  rw [made] at again
  cases again
  have normal := Template.normal_of_tokens read
  rw [arity]
  constructor
  · exact Program.arity_ofTokens_le_iff.mpr fun index member => normal.each _ member
  · exact Program.arity_ofTokens_le_iff.mp (Nat.le_refl _)

namespace Checked

/-- With all checks in place, a call of any template gives what it gives without them. -/
theorem call?_eq (source : String) (options : Options) (statics : Variables) (params : List Value) :
    call? source options statics params =
      some ((Method.compile source options).map (·.callWith statics params)) := by
  rw [call?, tokens?_eq, Option.bind_eq_bind, Option.bind_some]
  cases read : Template.tokens source with
  | error e =>
    rw [Method.compile, read]
    rfl
  | ok ts =>
    obtain ⟨d, made, _, _, lines, increment, _⟩ := Draft.ofTokens?_eq options.keepPadding ts
    have forward : Forward d.lines :=
      lines ▸ Code.forward_lines (Fragment.bounded_ofTokens options.keepPadding 0 ts).code
    obtain ⟨visited, visits⟩ := Code.visits_run ⟨params, d.increment⟩ { statics }
      (List.drop_zero (l := (Program.ofTokens options.keepPadding ts).code))
    rw [← lines] at visits
    have run := runLines?_of_visits forward visits
    rw [increment] at run
    simp [Method.compile, read, made, increment, run, Except.map, Method.callWith, Program.execute]

/-- No operation is used outside its domain, whatever the template, the parameters and the static
variables: neither in reading a template, accepted or refused, nor in making its code and running it.
The parameters that an accepted template names are indexes below its arity, at most 9. -/
theorem operations_within_domains (source : String) :
    tokens? source = some (Template.tokens source) ∧
    (∀ ts, Template.tokens source = .ok ts → ∀ keepPadding,
      ∃ d, Draft.ofTokens? keepPadding ts = some d ∧ d.arity ≤ 9 ∧
        ∀ index, .action (.parameter index) ∈ ts → index < d.arity) ∧
    (∀ options statics params, call? source options statics params =
      some ((Method.compile source options).map (·.callWith statics params))) := by
  refine ⟨tokens?_eq source, fun ts read keepPadding => ?_, call?_eq source⟩
  obtain ⟨d, made, _⟩ := Draft.ofTokens?_eq keepPadding ts
  exact ⟨d, made, Draft.parameters_within read made⟩

end Checked

end TermTemplate
