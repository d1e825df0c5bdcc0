import TermTemplate.Proofs.DraftedCode

/-! Generated code only leads forward and never out of its bounds, so that a run of it visits every
line at most once. -/
namespace TermTemplate

/-- Every branch has its target, which lies behind it and not beyond the end. -/
def Forward (lines : List Line) : Prop :=
  ∀ index l, lines[index]? = some l → l.isBranch →
    ∃ target, l.target? = some target ∧ index < target ∧ target ≤ lines.length

namespace Visits

variable {ps : Parameters} {lines : List Line}

theorem run?_forward (forward : Forward lines) {index next : Nat} {s after : State} {l : Line}
    (fetch : lines[index]? = some l) (run : l.run? ps index s = some (next, after)) :
    index < next ∧ next ≤ lines.length := by
  have inside := (List.getElem?_eq_some_iff.mp fetch).1
  have step : next = index + 1 ∨ (l.isBranch ∧ l.target? = some next) := by
    cases l with
    | emit text => cases run; exact .inl rfl
    | action a => cases run; exact .inl rfl
    | branchIfFalse target =>
      simp only [Line.run?] at run
      split at run
      · cases run; exact .inl rfl
      · obtain ⟨known, given, same⟩ := Option.map_eq_some_iff.mp run
        cases same
        exact .inr ⟨rfl, given⟩
    | jump target =>
      obtain ⟨known, given, same⟩ := Option.map_eq_some_iff.mp run
      cases same
      exact .inr ⟨rfl, given⟩
  rcases step with rfl | ⟨branch, target⟩
  · omega
  · obtain ⟨known, given, bounds⟩ := forward index l fetch branch
    rw [target] at given
    cases given
    exact bounds

theorem increasing (forward : Forward lines) {index : Nat} {s final : State} {visited : List Nat}
    (visits : Visits ps lines index s visited final) :
    visited.Pairwise (· < ·) ∧ (∀ i ∈ visited, index ≤ i ∧ i < lines.length) ∧
      visited.length ≤ lines.length - index := by
  induction visits with
  | stop => simp
  | step fetch run rest ih =>
    obtain ⟨ordered, range, short⟩ := ih
    obtain ⟨behind, bound⟩ := run?_forward forward fetch run
    have inside := (List.getElem?_eq_some_iff.mp fetch).1
    refine ⟨List.pairwise_cons.mpr ⟨fun i member => ?_, ordered⟩, fun i member => ?_, ?_⟩
    · exact Nat.lt_of_lt_of_le behind (range i member).1
    · rcases List.mem_cons.mp member with rfl | member
      · exact ⟨Nat.le_refl _, inside⟩
      · have := range i member
        omega
    · rw [List.length_cons]
      omega

theorem deterministic {index : Nat} {s first second : State} {xs ys : List Nat}
    (one : Visits ps lines index s xs first) (other : Visits ps lines index s ys second) :
    xs = ys ∧ first = second := by
  induction one generalizing ys with
  | stop outside =>
    cases other with
    | stop => exact ⟨rfl, rfl⟩
    | step fetch => rw [outside] at fetch; cases fetch
  | step fetch run rest ih =>
    cases other with
    | stop outside => rw [outside] at fetch; cases fetch
    | step fetch' run' rest' =>
      rw [fetch] at fetch'
      cases fetch'
      rw [run] at run'
      cases run'
      obtain ⟨rfl, rfl⟩ := ih rest'
      exact ⟨rfl, rfl⟩

end Visits

namespace Instruction

theorem target?_succ (i : Instruction) (index : Nat) :
    i.target? (index + 1) = (i.target? index).map (· + 1) := by
  cases i with
  | emit text => rfl
  | action a => rfl
  | branchIfFalse skip => simp [target?]; omega
  | jump skip => simp [target?]; omega

theorem lt_target? {i : Instruction} {index target : Nat} (leads : i.target? index = some target) :
    index < target := by
  cases i with
  | emit text => cases leads
  | action a => cases leads
  | branchIfFalse skip => cases leads; omega
  | jump skip => cases leads; omega

theorem target?_line (i : Instruction) (index : Nat) : (i.line index).target? = i.target? index := by
  cases i <;> rfl

theorem exists_target? {i : Instruction} {index : Nat} (branch : (i.line index).isBranch) :
    ∃ target, i.target? index = some target := by
  cases i with
  | emit text => cases branch
  | action a => cases branch
  | branchIfFalse skip => exact ⟨_, rfl⟩
  | jump skip => exact ⟨_, rfl⟩

end Instruction

namespace Code

/-- No instruction skips more code than there is. -/
def Bounded : Code → Prop
  | [] => True
  | i :: code => (∀ target ∈ i.target? 0, target ≤ code.length + 1) ∧ Bounded code

@[simp] theorem length_lines (code : Code) (first : Nat) : (code.lines first).length = code.length := by
  induction code generalizing first with
  | nil => rfl
  | cons i code ih => simp [lines, ih]

theorem getElem?_lines (code : Code) (first index : Nat) :
    (code.lines first)[index]? = code[index]?.map (Instruction.line (first + index)) := by
  induction code generalizing first index with
  | nil => simp [lines]
  | cons i code ih =>
    cases index with
    | zero => simp [lines]
    | succ index => simp [lines, ih, Nat.add_comm 1, Nat.add_assoc]

theorem le_length_of_bounded {code : Code} (bounded : code.Bounded) {index target : Nat}
    {i : Instruction} (fetch : code[index]? = some i) (leads : i.target? index = some target) :
    target ≤ code.length := by
  induction code generalizing index target with
  | nil => simp at fetch
  | cons j code ih =>
    cases index with
    | zero =>
      obtain rfl : j = i := by simpa using fetch
      exact bounded.1 target leads
    | succ index =>
      rw [Instruction.target?_succ] at leads
      obtain ⟨before, found, rfl⟩ := Option.map_eq_some_iff.mp leads
      exact Nat.succ_le_succ (ih bounded.2 (by simpa using fetch) found)

theorem forward_lines {code : Code} (bounded : code.Bounded) : Forward (code.lines 0) := by
  intro index l fetch branch
  rw [getElem?_lines, Nat.zero_add] at fetch
  obtain ⟨i, found, rfl⟩ := Option.map_eq_some_iff.mp fetch
  obtain ⟨target, leads⟩ := Instruction.exists_target? branch
  refine ⟨target, (i.target?_line index).trans leads, Instruction.lt_target? leads, ?_⟩
  rw [length_lines]
  exact le_length_of_bounded bounded found leads

theorem drop_eq_cons {code rest : Code} {index : Nat} {i : Instruction}
    (left : code.drop index = i :: rest) :
    (code.lines 0)[index]? = some (i.line index) ∧ code.drop (index + 1) = rest := by
  have fetch : code[index]? = some i := by rw [← List.head?_drop, left]; rfl
  refine ⟨by simp [getElem?_lines, fetch], ?_⟩
  rw [← List.drop_drop, left]
  rfl

/-- Running the code that is left is a run by indexes from where it starts. -/
theorem visits_run {code rest : Code} (ps : Parameters) {index : Nat} (s : State)
    (left : code.drop index = rest) :
    ∃ visited, Visits ps (code.lines 0) index s visited (rest.run ps s) := by
  fun_induction Code.run ps rest s generalizing index with
  | case1 s =>
    refine ⟨[], .stop ?_⟩
    have outside : code.length ≤ index := List.drop_eq_nil_iff.mp left
    simp [outside]
  | case2 text rest s ih =>
    obtain ⟨fetch, later⟩ := drop_eq_cons left
    obtain ⟨visited, visits⟩ := ih later
    exact ⟨_, .step fetch rfl visits⟩
  | case3 a rest s ih =>
    obtain ⟨fetch, later⟩ := drop_eq_cons left
    obtain ⟨visited, visits⟩ := ih later
    exact ⟨_, .step fetch rfl visits⟩
  | case4 skip rest s ih =>
    obtain ⟨fetch, later⟩ := drop_eq_cons left
    by_cases truthy : s.top.isTruthy
    · obtain ⟨visited, visits⟩ := @ih (index + 1) (by simp [truthy, later])
      exact ⟨_, .step fetch (by simp [Instruction.line, Line.run?, truthy]) visits⟩
    · obtain ⟨visited, visits⟩ := @ih (index + 1 + skip) (by simp [truthy, ← later])
      exact ⟨_, .step fetch (by simp [Instruction.line, Instruction.target?, Line.run?, truthy]) visits⟩
  | case5 skip rest s ih =>
    obtain ⟨fetch, later⟩ := drop_eq_cons left
    obtain ⟨visited, visits⟩ := @ih (index + 1 + skip) (by simp [← later])
    exact ⟨_, .step fetch rfl visits⟩

end Code

namespace Fragment

/-- Neither the instructions of a fragment nor its exits lead beyond its end. -/
structure Bounded (f : Fragment) : Prop where
  code : f.code.Bounded
  exits : ∀ e ∈ f.exits, e.next ≤ f.code.length ∧ e.finish ≤ f.code.length

theorem Bounded.cons {f : Fragment} (bounded : f.Bounded) {i : Instruction}
    (fits : ∀ target ∈ i.target? 0, target ≤ f.code.length + 1) : (f.cons i).Bounded := by
  refine ⟨⟨fits, bounded.code⟩, fun e member => ?_⟩
  obtain ⟨inner, inside, rfl⟩ := List.mem_map.mp member
  have bounds := bounded.exits inner inside
  simp only [Fragment.cons, Exit.further, List.length_cons]
  omega

theorem Bounded.emit {f : Fragment} (bounded : f.Bounded) (text : String) : (f.emit text).Bounded := by
  unfold Fragment.emit
  split
  · rename_i head
    have code := bounded.code
    have exits := bounded.exits
    rw [head] at code exits
    exact ⟨⟨by simp [Instruction.target?], code.2⟩, by simpa using exits⟩
  · exact bounded.cons (by simp [Instruction.target?])

theorem Bounded.opening {f : Fragment} (bounded : f.Bounded) : f.opening.Bounded :=
  ⟨bounded.code, fun e member => bounded.exits e (List.mem_of_mem_tail member)⟩

theorem Bounded.exit {f : Fragment} (bounded : f.Bounded) :
    f.exit.next ≤ f.code.length ∧ f.exit.finish ≤ f.code.length := by
  unfold Fragment.exit
  cases split : f.exits with
  | nil => simp
  | cons e exits => exact bounded.exits e (by simp [split])

theorem Bounded.test {f : Fragment} (bounded : f.Bounded) : f.test.Bounded := by
  refine bounded.cons fun target leads => ?_
  have := bounded.exit
  cases leads
  omega

theorem Bounded.alternative {f : Fragment} (bounded : f.Bounded) : f.alternative.Bounded := by
  have exit := bounded.exit
  have inner : Bounded { f with exits := { f.exit with next := 0 } :: f.exits.tail } := by
    refine ⟨bounded.code, List.forall_mem_cons.mpr ⟨⟨Nat.zero_le _, exit.2⟩, fun e member => ?_⟩⟩
    exact bounded.exits e (List.mem_of_mem_tail member)
  refine inner.cons fun target leads => ?_
  cases leads
  have := exit.2
  simp only
  omega

theorem Bounded.closing {f : Fragment} (bounded : f.Bounded) : f.closing.Bounded :=
  ⟨bounded.code, List.forall_mem_cons.mpr ⟨⟨Nat.zero_le _, Nat.zero_le _⟩, bounded.exits⟩⟩

theorem bounded_ofTokens (keepPadding : Bool) (depth : Nat) (ts : List Token) :
    (ofTokens keepPadding depth ts).Bounded := by
  refine forall_ofTokens ?_ ?_ ?_ ?_ ?_ ?_ ?_ keepPadding depth ts
  · intro depth
    refine ⟨trivial, fun e member => ?_⟩
    rw [List.eq_of_mem_replicate member]
    simp
  · intro f text bounded
    exact bounded.emit text
  · intro f a bounded
    exact bounded.cons (by simp [Instruction.target?])
  · intro f bounded
    exact bounded.opening
  · intro f bounded
    exact bounded.test
  · intro f bounded
    exact bounded.alternative
  · intro f bounded
    exact bounded.closing

end Fragment

/-- Code made in the order of the tokens is made without a fault, every branch is given its target
exactly once, and all lead forward within the code. So every run visits indexes in increasing order,
none of them twice, and is the run of the program. -/
theorem drafted_code_leads_forward (keepPadding : Bool) (ts : List Token) :
    ∃ d, Draft.ofTokens? keepPadding ts = some d ∧
      d.lines = (Program.ofTokens keepPadding ts).code.lines 0 ∧
      (∀ site, d.resolved.count site = (branchAt d.lines site).toNat) ∧
      Forward d.lines ∧
      ∀ (params : List Value) (statics : Variables), ∃ visited,
        Visits ⟨params, d.increment⟩ d.lines 0 { statics } visited
          ((Program.ofTokens keepPadding ts).execute params statics) ∧
        (∀ indexes final, Visits ⟨params, d.increment⟩ d.lines 0 { statics } indexes final →
          indexes = visited ∧ final = (Program.ofTokens keepPadding ts).execute params statics) ∧
        visited.Pairwise (· < ·) ∧ (∀ index ∈ visited, index < d.lines.length) ∧
        visited.length ≤ d.lines.length := by
  obtain ⟨d, made, consistent, closed, lines, increment, _⟩ := Draft.ofTokens?_eq keepPadding ts
  have forward : Forward d.lines :=
    lines ▸ Code.forward_lines (Fragment.bounded_ofTokens keepPadding 0 ts).code
  refine ⟨d, made, lines, fun site => ?_, forward, fun params statics => ?_⟩
  · have noted := consistent.noted site
    rwa [closed, List.nil_append] at noted
  · obtain ⟨visited, visits⟩ := Code.visits_run ⟨params, d.increment⟩ { statics }
      (List.drop_zero (l := (Program.ofTokens keepPadding ts).code))
    rw [← lines, increment] at visits
    obtain ⟨ordered, range, short⟩ := visits.increasing forward
    refine ⟨visited, increment ▸ visits, ?_, ordered, fun index member => (range index member).2, short⟩
    intro indexes final other
    rw [increment] at other
    exact other.deterministic visits

end TermTemplate
