import TermTemplate.Program.Assembly
import TermTemplate.Template.Walk

/-! Compiled code does what its tokens do where they stand. A fragment knows its exits as distances;
each of them leads to the code of the tokens that `skipArm` stops at, and with that a run of the code
follows the walk over the tokens step by step. -/
namespace TermTemplate

open Template

/-- With `toElse` the way to behind the next `%e` or `%;`, otherwise the way to behind `%;`. -/
def Exit.distance (toElse : Bool) (e : Exit) : Nat := if toElse then e.next else e.finish

@[simp] theorem Exit.distance_further (toElse : Bool) (e : Exit) :
    e.further.distance toElse = e.distance toElse + 1 := by
  cases toElse <;> rfl

namespace Fragment

/-- The code that the conditional `nesting` levels out goes on with. -/
def behind (toElse : Bool) (nesting : Nat) (f : Fragment) : Option Code :=
  f.exits[nesting]?.map fun e => f.code.drop (e.distance toElse)

@[simp] theorem behind_cons (toElse : Bool) (nesting : Nat) (i : Instruction) (f : Fragment) :
    (f.cons i).behind toElse nesting = f.behind toElse nesting := by
  simp [behind, cons, Function.comp_def]

@[simp] theorem behind_opening (toElse : Bool) (nesting : Nat) (f : Fragment) :
    f.opening.behind toElse nesting = f.behind toElse (nesting + 1) := by
  simp [behind, opening]

@[simp] theorem behind_test (toElse : Bool) (nesting : Nat) (f : Fragment) :
    f.test.behind toElse nesting = f.behind toElse nesting := behind_cons _ _ _ _

@[simp] theorem behind_closing_zero (toElse : Bool) (f : Fragment) :
    f.closing.behind toElse 0 = some f.code := by
  cases toElse <;> rfl

@[simp] theorem behind_closing_succ (toElse : Bool) (nesting : Nat) (f : Fragment) :
    f.closing.behind toElse (nesting + 1) = f.behind toElse nesting := rfl

@[simp] theorem behind_alternative_next (f : Fragment) :
    f.alternative.behind true 0 = some f.code := by
  rw [alternative, behind_cons]
  rfl

@[simp] theorem behind_alternative_finish (f : Fragment) :
    f.alternative.behind false 0 = some (f.code.drop f.exit.finish) := by
  rw [alternative, behind_cons]
  rfl

@[simp] theorem behind_alternative_succ (toElse : Bool) (nesting : Nat) (f : Fragment) :
    f.alternative.behind toElse (nesting + 1) = f.behind toElse (nesting + 1) := by
  rw [alternative, behind_cons]
  simp [behind]

theorem behind_ending {depth nesting : Nat} (toElse : Bool) (inside : nesting < depth) :
    (ending depth).behind toElse nesting = some [] := by
  simp [behind, ending, inside]

theorem behind_zero (toElse : Bool) {f : Fragment} (inside : 0 < f.exits.length) :
    f.behind toElse 0 = some (f.code.drop (f.exit.distance toElse)) := by
  obtain ⟨e, exits, split⟩ := List.exists_cons_of_length_pos inside
  simp [behind, exit, split]

/-- No exit leads to the front of code that text can still be joined to. -/
def Joinable (f : Fragment) : Prop :=
  f.sealed = false → f.code ≠ [] → ∀ e ∈ f.exits, ∀ toElse, 0 < e.distance toElse

theorem joinable_cons (i : Instruction) (f : Fragment) : (f.cons i).Joinable := by
  intro _ _ e member toElse
  obtain ⟨inner, _, rfl⟩ := List.mem_map.mp member
  simp

theorem joinable_emit {f : Fragment} (joinable : f.Joinable) (text : String) :
    (f.emit text).Joinable := by
  unfold emit
  split
  · rename_i unsealed head
    intro _ _ e member
    exact joinable unsealed (by simp [head]) e member
  · exact joinable_cons _ _

theorem joinable_opening {f : Fragment} (joinable : f.Joinable) : f.opening.Joinable := by
  intro unsealed filled e member
  exact joinable unsealed filled e (List.mem_of_mem_tail member)

theorem joinable_closing (f : Fragment) : f.closing.Joinable := by
  intro unsealed
  cases unsealed

theorem joinable_ofTokens (keepPadding : Bool) (depth : Nat) (ts : List Token) :
    (ofTokens keepPadding depth ts).Joinable := by
  refine forall_ofTokens ?_ ?_ ?_ ?_ ?_ ?_ ?_ keepPadding depth ts
  · intro depth _ filled
    exact absurd rfl filled
  · intro f text joinable
    exact joinable_emit joinable text
  · intro f a _
    exact joinable_cons _ f
  · intro f joinable
    exact joinable_opening joinable
  · intro f _
    exact joinable_cons _ f
  · intro f _
    exact joinable_cons _ _
  · intro f _
    exact joinable_closing f

theorem behind_emit {f : Fragment} (joinable : f.Joinable) (toElse : Bool) (nesting : Nat)
    (text : String) : (f.emit text).behind toElse nesting = f.behind toElse nesting := by
  unfold emit
  split
  · rename_i next code unsealed head
    -- The joined text stands before every exit, so it makes no difference behind one.
    cases found : f.exits[nesting]? with
    | none => simp [behind, found]
    | some e =>
      have beyond := joinable unsealed (by simp [head]) e (List.mem_of_getElem? found) toElse
      obtain ⟨n, further⟩ := Nat.exists_eq_add_one_of_ne_zero (Nat.ne_of_gt beyond)
      simp [behind, found, head, further]
  · exact behind_cons _ _ _ _

/-- How many conditionals are open behind a mark of the one `nesting` levels out. -/
def depthBehind (depth nesting : Nat) (closed : Bool) : Nat :=
  if closed then depth - nesting - 1 else depth - nesting

@[simp] theorem depthBehind_succ (depth nesting : Nat) (closed : Bool) :
    depthBehind (depth + 1) (nesting + 1) closed = depthBehind depth nesting closed := by
  simp only [depthBehind, Nat.add_sub_add_right]

/-- Every exit leads to the code of the tokens that the search for its mark stops at. -/
theorem behind_ofTokens (keepPadding toElse : Bool) (ts : List Token) {depth nesting : Nat}
    (inside : nesting < depth) :
    (ofTokens keepPadding depth ts).behind toElse nesting =
      some (ofTokens keepPadding (depthBehind depth nesting (skipArm toElse nesting ts).1)
        (skipArm toElse nesting ts).2).code := by
  induction ts generalizing depth nesting with
  | nil => exact behind_ending toElse inside
  | cons t ts ih =>
    obtain ⟨depth, rfl⟩ := Nat.exists_eq_add_one_of_ne_zero (Nat.ne_of_gt (Nat.zero_lt_of_lt inside))
    cases t with
    | literal text =>
      rw [ofTokens, behind_emit (joinable_ofTokens _ _ _)]
      exact ih inside
    | padding text =>
      simp only [ofTokens, skipArm]
      split
      · rw [behind_emit (joinable_ofTokens _ _ _)]
        exact ih inside
      · exact ih inside
    | action a => simpa only [ofTokens, behind_cons, skipArm] using ih inside
    | increment => exact ih inside
    | beginIf =>
      rw [ofTokens, behind_opening, ih (Nat.succ_lt_succ inside), depthBehind_succ]
      rfl
    | thenArm => simpa only [ofTokens, behind_test, skipArm] using ih inside
    | elseArm =>
      cases nesting with
      | zero =>
        cases toElse with
        | true => simp [ofTokens, skipArm, depthBehind]
        | false =>
          have finish := behind_zero false (f := ofTokens keepPadding (depth + 1) ts)
            (by simp [length_exits_ofTokens])
          rw [ofTokens, behind_alternative_finish]
          exact finish.symm.trans (ih inside)
      | succ nesting =>
        rw [ofTokens, behind_alternative_succ, ih inside]
        simp [skipArm]
    | endIf =>
      cases nesting with
      | zero => simp [ofTokens, skipArm, depthBehind]
      | succ nesting =>
        rw [ofTokens, behind_closing_succ, ih (Nat.lt_of_succ_lt_succ inside)]
        simp [skipArm]

/-- Where a failed test or a finished arm goes on. -/
theorem drop_exit (keepPadding toElse : Bool) (depth : Nat) (ts : List Token) :
    let f := ofTokens keepPadding (depth + 1) ts
    f.code.drop (f.exit.distance toElse) =
      (ofTokens keepPadding (depthBehind (depth + 1) 0 (skipArm toElse 0 ts).1)
        (skipArm toElse 0 ts).2).code := by
  have here := behind_zero toElse (f := ofTokens keepPadding (depth + 1) ts)
    (by simp [length_exits_ofTokens])
  rw [behind_ofTokens keepPadding toElse ts (Nat.succ_pos depth)] at here
  exact (Option.some.inj here).symm

theorem code_thenArm (keepPadding : Bool) (depth : Nat) (ts : List Token) :
    (ofTokens keepPadding depth (.thenArm :: ts)).code =
      .branchIfFalse (ofTokens keepPadding (max depth 1) ts).exit.next ::
        (ofTokens keepPadding (max depth 1) ts).code := by
  cases depth with
  | zero => rfl
  | succ depth => rw [Nat.max_eq_left (Nat.succ_pos depth)]; rfl

theorem run_emit (ps : Parameters) (text : String) (f : Fragment) (s : State) :
    (f.emit text).code.run ps s = f.code.run ps (s.write text) := by
  unfold emit
  split
  · rename_i head
    simp [head, Code.run, State.write, String.append_assoc]
  · simp [cons, Code.run]

end Fragment

theorem Template.skipArm_closed (nesting : Nat) (ts : List Token) :
    (skipArm false nesting ts).1 = true := by
  fun_induction skipArm false nesting ts <;> simp_all

open Fragment in
/-- The run of a fragment is the walk over its tokens, whatever surrounds them. -/
theorem run_ofTokens (keepPadding : Bool) (ps : Parameters) (depth : Nat) (ts : List Token)
    (s : State) :
    (ofTokens keepPadding depth ts).code.run ps s = walk keepPadding ps depth ts s := by
  -- The induction is on the walk, which goes on behind the mark where the code goes on by a skip.
  fun_induction walk keepPadding ps depth ts s with
  | case1 => simp [ofTokens, ending, Code.run]
  | case2 _ _ _ _ ih => rw [ofTokens, run_emit, ih]
  | case3 _ _ _ _ ih =>
    cases keepPadding with
    | true => simpa [ofTokens, run_emit] using ih
    | false => simpa [ofTokens] using ih
  | case4 _ _ _ _ ih => rw [ofTokens, cons, Code.run, ih]
  | case5 _ _ _ ih => exact ih
  | case6 _ _ _ ih => exact ih
  | case7 _ _ _ truthy ih => rw [code_thenArm, Code.run, if_pos truthy, ih]
  | case8 depth s ts falsy landing ih =>
    have lands := drop_exit keepPadding true (max depth 1 - 1) ts
    rw [Nat.sub_add_cancel (Nat.le_max_right depth 1)] at lands
    have level : depthBehind (max depth 1) 0 landing.1 =
        if landing.1 then depth - 1 else max depth 1 := by
      simp only [depthBehind]
      split <;> omega
    rw [code_thenArm, Code.run, if_neg falsy]
    refine (congrArg (Code.run ps · s.drop) (lands.trans ?_)).trans ih
    rw [level]
    rfl
  | case9 _ _ ih => exact ih
  | case10 depth s ts inside ih =>
    obtain ⟨depth, rfl⟩ := Nat.exists_eq_add_one_of_ne_zero inside
    have lands := drop_exit keepPadding false depth ts
    rw [skipArm_closed] at lands
    rw [ofTokens, alternative, cons, Code.run]
    exact (congrArg (Code.run ps · s) lands).trans ih
  | case11 depth _ _ ih =>
    cases depth with
    | zero => exact ih
    | succ depth => exact ih

/-- The compiled template and the direct reading of its tokens agree on everything: the output, both
kinds of variables and what is left on the stack. No order of the marks is excluded. -/
theorem execute_ofTokens (keepPadding : Bool) (ts : List Token) (params : List Value)
    (statics : Variables) :
    (Program.ofTokens keepPadding ts).execute params statics =
      interpret keepPadding ts params statics :=
  run_ofTokens keepPadding ⟨params, ts.contains .increment⟩ 0 ts { statics }

-- An else without a conditional, a test outside of any, two else arms in a row, and an end too many.
example :
    ((Program.ofTokens false
      [.elseArm, .literal "a", .action (.integer 0), .thenArm, .literal "b", .elseArm, .literal "c",
        .elseArm, .literal "d", .endIf, .literal "e", .endIf, .literal "f"]).execute [] .initial).output =
      "acef" := by decide +kernel

end TermTemplate
