import TermTemplate.Program.Assembly
import TermTemplate.Template.Nesting

/-! Marks of conditionals that come in any order stand for complete conditionals. Repairing tokens makes
them so and changes nothing else, and the program is the same before and after. -/
namespace TermTemplate

namespace Template

theorem nested_replicate_endIf (depth : Nat) : Nested depth (List.replicate depth .endIf) := by
  induction depth with
  | zero => exact .nil
  | succ depth ih => exact .endIf ih

theorem nested_repair (depth : Nat) (ts : List Token) : Nested depth (repair depth ts) := by
  induction ts generalizing depth with
  | nil => simpa only [repair] using nested_replicate_endIf depth
  | cons t ts ih =>
    cases t with
    | literal text => simpa only [repair] using .literal text (ih depth)
    | padding text => simpa only [repair] using .padding text (ih depth)
    | action a => simpa only [repair] using .action a (ih depth)
    | increment => simpa only [repair] using .increment (ih depth)
    | beginIf => simpa only [repair] using .beginIf (ih (depth + 1))
    | thenArm =>
      cases depth with
      | zero => exact .beginIf (.thenArm (ih 1))
      | succ depth => exact .thenArm (ih (depth + 1))
    | elseArm =>
      cases depth with
      | zero => exact ih 0
      | succ depth => exact .elseArm (ih (depth + 1))
    | endIf =>
      cases depth with
      | zero => exact ih 0
      | succ depth => exact .endIf (ih depth)

theorem repair_of_nested {depth : Nat} {ts : List Token} (nested : Nested depth ts) :
    repair depth ts = ts := by
  induction nested with
  | nil => rfl
  | beginIf _ ih | thenArm _ ih | elseArm _ ih | endIf _ ih | increment _ ih =>
    simp only [repair, ih]
  | literal _ _ ih | padding _ _ ih | action _ _ ih => simp only [repair, ih]

/-- Further `%;` close what is open, as the repair does, or are dropped. -/
theorem repair_append_endIf (depth n : Nat) (ts : List Token) :
    repair depth (ts ++ List.replicate n .endIf) = repair depth ts := by
  have closing (depth : Nat) :
      repair depth (List.replicate n .endIf) = List.replicate depth .endIf := by
    induction n generalizing depth with
    | zero => rw [List.replicate_zero, repair]
    | succ n ih =>
      cases depth with
      | zero => exact ih 0
      | succ depth => exact congrArg (.endIf :: ·) (ih depth)
  induction ts generalizing depth with
  | nil => rw [List.nil_append, closing, repair]
  | cons t ts ih =>
    cases t with
    | thenArm => cases depth <;> simp only [List.cons_append, repair, ih]
    | elseArm => cases depth <;> simp only [List.cons_append, repair, ih]
    | endIf => cases depth <;> simp only [List.cons_append, repair, ih]
    | _ => simp only [List.cons_append, repair, ih]

theorem mem_repair {t : Token} (unmarked : t.isMark = false) (depth : Nat) (ts : List Token) :
    t ∈ repair depth ts ↔ t ∈ ts := by
  have other : t ≠ .beginIf ∧ t ≠ .thenArm ∧ t ≠ .elseArm ∧ t ≠ .endIf := by
    refine ⟨?_, ?_, ?_, ?_⟩ <;> rintro rfl <;> cases unmarked
  induction ts generalizing depth with
  | nil => simp [repair, other]
  | cons u ts ih =>
    cases u with
    | thenArm => cases depth <;> simp [repair, other, ih]
    | elseArm => cases depth <;> simp [repair, other, ih]
    | endIf => cases depth <;> simp [repair, other, ih]
    | _ => simp [repair, ih]

/-- For each of `depth` conditionals the rest of its arms and its `%;`, the innermost first, and
complete tokens behind them. -/
def Closes : Nat → List Token → Prop
  | 0, ts => Complete false ts
  | depth + 1, ts =>
    ∃ arms rest, ts = arms ++ .endIf :: rest ∧ Complete true arms ∧ Closes depth rest

/-- What keeps tokens complete in front of them can stand in front of the innermost conditional. -/
theorem Closes.append {depth : Nat} {ts : List Token} (closes : Closes depth ts)
    (front : List Token)
    (keeps : ∀ us, Complete (0 < depth) us → Complete (0 < depth) (front ++ us)) :
    Closes depth (front ++ ts) := by
  cases depth with
  | zero => exact keeps ts closes
  | succ depth =>
    obtain ⟨arms, rest, rfl, complete, outer⟩ := closes
    exact ⟨front ++ arms, rest, (List.append_assoc ..).symm, keeps arms complete, outer⟩

theorem closes_of_nested {depth : Nat} {ts : List Token} (nested : Nested depth ts) :
    Closes depth ts := by
  have unmarked {t : Token} (plain : t.isMark = false) {depth : Nat} {ts : List Token}
      (closes : Closes depth ts) : Closes depth ([t] ++ ts) :=
    closes.append [t] fun _ complete => .plain plain complete
  induction nested with
  | nil => exact .nil
  | beginIf _ ih =>
    obtain ⟨arms, rest, rfl, complete, outer⟩ := ih
    have whole := outer.append (.beginIf :: arms ++ [.endIf]) fun us following => by
      simpa using Complete.conditional complete following
    simpa using whole
  | thenArm _ ih => exact ih.append [.thenArm] fun _ complete => .thenArm complete
  | elseArm _ ih => exact ih.append [.elseArm] fun _ complete => .elseArm complete
  | endIf _ ih => exact ⟨[], _, rfl, .nil, ih⟩
  | literal _ _ ih => exact unmarked rfl ih
  | padding _ _ ih => exact unmarked rfl ih
  | action _ _ ih => exact unmarked rfl ih
  | increment _ ih => exact unmarked rfl ih

theorem Nested.unmarked {t : Token} (plain : t.isMark = false) {depth : Nat} {ts : List Token}
    (rest : Nested depth ts) : Nested depth (t :: ts) := by
  cases t with
  | literal text => exact .literal text rest
  | padding text => exact .padding text rest
  | action a => exact .action a rest
  | increment => exact .increment rest
  | _ => cases plain

theorem Complete.nested_append {inside : Bool} {ts : List Token} (complete : Complete inside ts)
    {depth : Nat} (around : inside → 0 < depth) {us : List Token} (following : Nested depth us) :
    Nested depth (ts ++ us) := by
  induction complete generalizing depth us with
  | nil => exact following
  | plain plain _ ih => exact (ih around following).unmarked plain
  | thenArm _ ih =>
    obtain ⟨depth, rfl⟩ := Nat.exists_eq_add_one.mpr (around rfl)
    exact .thenArm (ih around following)
  | elseArm _ ih =>
    obtain ⟨depth, rfl⟩ := Nat.exists_eq_add_one.mpr (around rfl)
    exact .elseArm (ih around following)
  | conditional _ _ arms rest =>
    have closed := arms (fun _ => Nat.succ_pos depth) (.endIf (rest around following))
    simpa using Nested.beginIf closed

/-- Counting the open conditionals finds out whether tokens are complete. -/
theorem nested_zero_iff {ts : List Token} : Nested 0 ts ↔ Complete false ts := by
  constructor
  · exact closes_of_nested
  · intro complete
    simpa using complete.nested_append (by simp) .nil

end Template

namespace Fragment

variable {f g : Fragment}

/-- The fragments cannot be told apart from what stands in front of them: if they are not the same,
they hold no code, and it does not matter whether they are sealed. -/
def Indistinct (f g : Fragment) : Prop := f = g ∨ f.code = [] ∧ g.code = [] ∧ f.exits = g.exits

namespace Indistinct

theorem code (same : Indistinct f g) : f.code = g.code := by
  rcases same with rfl | ⟨first, second, _⟩
  · rfl
  · rw [first, second]

theorem exits (same : Indistinct f g) : f.exits = g.exits := by
  rcases same with rfl | ⟨_, _, exits⟩
  · rfl
  · exact exits

theorem cons (same : Indistinct f g) (i : Instruction) : f.cons i = g.cons i := by
  rw [Fragment.cons, Fragment.cons, same.code, same.exits]

theorem emit (same : Indistinct f g) (text : String) : f.emit text = g.emit text := by
  rcases same with rfl | ⟨first, second, exits⟩
  · rfl
  · simp [Fragment.emit, Fragment.cons, first, second, exits]

theorem opening (same : Indistinct f g) : Indistinct f.opening g.opening := by
  rcases same with rfl | ⟨first, second, exits⟩
  · exact .inl rfl
  · exact .inr ⟨first, second, congrArg List.tail exits⟩

theorem test (same : Indistinct f g) : f.test = g.test := by
  rw [Fragment.test, Fragment.test, Fragment.exit, Fragment.exit, same.exits]
  exact same.cons _

theorem alternative (same : Indistinct f g) : f.alternative = g.alternative := by
  simp only [Fragment.alternative, Fragment.cons, Fragment.exit, same.code, same.exits]

theorem closing (same : Indistinct f g) : f.closing = g.closing := by
  simp only [Fragment.closing, same.code, same.exits]

end Indistinct

theorem ofTokens_replicate_endIf (keepPadding : Bool) (depth : Nat) :
    Indistinct (ofTokens keepPadding depth (List.replicate depth .endIf)) (ending depth) := by
  have closed : (ofTokens keepPadding depth (List.replicate depth .endIf)).code = [] ∧
      (ofTokens keepPadding depth (List.replicate depth .endIf)).exits =
        List.replicate depth ⟨0, 0⟩ := by
    induction depth with
    | zero => exact ⟨rfl, rfl⟩
    | succ depth ih => exact ⟨ih.1, congrArg (List.cons (⟨0, 0⟩ : Exit)) ih.2⟩
  exact .inr ⟨closed.1, rfl, closed.2⟩

open Template in
theorem ofTokens_repair (keepPadding : Bool) (depth : Nat) (ts : List Token) :
    Indistinct (ofTokens keepPadding depth (repair depth ts)) (ofTokens keepPadding depth ts) := by
  induction ts generalizing depth with
  | nil => simpa only [repair, ofTokens] using ofTokens_replicate_endIf keepPadding depth
  | cons t ts ih =>
    cases t with
    | literal text => simpa only [repair, ofTokens] using .inl ((ih depth).emit text)
    | padding text =>
      simp only [repair, ofTokens]
      split
      · exact .inl ((ih depth).emit text)
      · exact ih depth
    | action a => simpa only [repair, ofTokens] using .inl ((ih depth).cons (.action a))
    | increment => simpa only [repair, ofTokens] using ih depth
    | beginIf => simpa only [repair, ofTokens] using (ih (depth + 1)).opening
    | thenArm =>
      cases depth with
      | zero => exact .inl (congrArg opening (ih 1).test)
      | succ depth => exact .inl (ih (depth + 1)).test
    | elseArm =>
      cases depth with
      | zero => exact ih 0
      | succ depth => exact .inl (ih (depth + 1)).alternative
    | endIf =>
      cases depth with
      | zero => exact ih 0
      | succ depth => exact .inl (ih depth).closing

end Fragment

open Template

theorem Program.ofTokens_repair (keepPadding : Bool) (ts : List Token) :
    ofTokens keepPadding (repair 0 ts) = ofTokens keepPadding ts := by
  have increment : (repair 0 ts).contains .increment = ts.contains .increment := by
    rw [Bool.eq_iff_iff, List.contains_iff_mem, List.contains_iff_mem]
    exact mem_repair rfl 0 ts
  have arity : (ofTokens keepPadding (repair 0 ts)).arity = (ofTokens keepPadding ts).arity :=
    arity_ofTokens_congr fun a => mem_repair rfl 0 ts
  have code := (Fragment.ofTokens_repair keepPadding 0 ts).code
  rw [ofTokens, ofTokens, Program.mk.injEq]
  exact ⟨increment, arity, code⟩

/-- Repaired tokens are complete, and tokens that are complete, repaired ones among them, stay as they
are. The program is the same as without the repair, in every instruction and every skip. So `%;` at
the end of a template make no difference, however many they are. -/
theorem Template.repair_keeps_program (keepPadding : Bool) (ts : List Token) :
    Complete false (repair 0 ts) ∧
    repair 0 (repair 0 ts) = repair 0 ts ∧
    (repair 0 ts = ts ↔ Complete false ts) ∧
    Program.ofTokens keepPadding (repair 0 ts) = Program.ofTokens keepPadding ts ∧
    ∀ n, Program.ofTokens keepPadding (ts ++ List.replicate n .endIf) =
      Program.ofTokens keepPadding ts := by
  have complete := nested_zero_iff.mp (nested_repair 0 ts)
  refine ⟨complete, repair_of_nested (nested_repair 0 ts), ⟨fun same => same ▸ complete, ?_⟩,
    Program.ofTokens_repair keepPadding ts, fun n => ?_⟩
  · intro already
    exact repair_of_nested (nested_zero_iff.mpr already)
  · rw [← Program.ofTokens_repair, repair_append_endIf, Program.ofTokens_repair]

end TermTemplate
