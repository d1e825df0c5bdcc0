import TermTemplate.Program.Draft

/-! The sites of a draft. Every branch of it is noted exactly once, as a site of an open conditional
or among those that have their targets, so no site is missed, met twice or taken for one. -/
namespace TermTemplate

def Line.aim (target : Nat) : Line → Line
  | branchIfFalse _ => .branchIfFalse (some target)
  | jump _ => .jump (some target)
  | l => l

@[simp] theorem Line.isBranch_aim (target : Nat) (l : Line) : (l.aim target).isBranch = l.isBranch := by
  cases l <;> rfl

/-- The lines after all sites have been given the target. -/
def aimAll (target : Nat) (sites : List Nat) (lines : List Line) : List Line :=
  sites.foldl (fun lines site => lines.modify site (Line.aim target)) lines

@[simp] theorem aimAll_nil (target : Nat) (lines : List Line) : aimAll target [] lines = lines := rfl

@[simp] theorem aimAll_cons (target site : Nat) (sites : List Nat) (lines : List Line) :
    aimAll target (site :: sites) lines =
      aimAll target sites (lines.modify site (Line.aim target)) := rfl

theorem aimAll_sites_append (target : Nat) (first second : List Nat) (lines : List Line) :
    aimAll target (first ++ second) lines = aimAll target second (aimAll target first lines) := by
  simp [aimAll]

@[simp] theorem length_aimAll (target : Nat) (sites : List Nat) (lines : List Line) :
    (aimAll target sites lines).length = lines.length := by
  induction sites generalizing lines with
  | nil => rfl
  | cons site sites ih => simp [ih]

/-- Whether there is a line with this index, and it is a branch. -/
def branchAt (lines : List Line) (index : Nat) : Bool := lines[index]?.any Line.isBranch

theorem lt_of_branchAt {lines : List Line} {index : Nat} (branch : branchAt lines index) :
    index < lines.length := by
  cases found : lines[index]? with
  | none => simp [branchAt, found] at branch
  | some l => exact (List.getElem?_eq_some_iff.mp found).1

@[simp] theorem branchAt_modify (target site index : Nat) (lines : List Line) :
    branchAt (lines.modify site (Line.aim target)) index = branchAt lines index := by
  by_cases same : site = index
  · subst same
    cases found : lines[site]? <;> simp [branchAt, found]
  · simp [branchAt, same]

@[simp] theorem branchAt_aimAll (target : Nat) (sites : List Nat) (lines : List Line) (index : Nat) :
    branchAt (aimAll target sites lines) index = branchAt lines index := by
  induction sites generalizing lines with
  | nil => rfl
  | cons site sites ih => simp [ih]

theorem branchAt_length (lines : List Line) : branchAt lines lines.length = false := by
  simp [branchAt]

theorem branchAt_append_of_branch {lines : List Line} {index : Nat} (branch : branchAt lines index)
    (more : List Line) : branchAt (lines ++ more) index := by
  rw [branchAt, List.getElem?_append_left (lt_of_branchAt branch)]
  exact branch

theorem branchAt_append_of_ne {lines : List Line} {index : Nat} (other : index ≠ lines.length)
    (l : Line) : branchAt (lines ++ [l]) index = branchAt lines index := by
  rcases Nat.lt_or_gt_of_ne other with before | behind
  · simp only [branchAt, List.getElem?_append_left before]
  · have missing : lines[index]? = none := List.getElem?_eq_none (Nat.le_of_lt behind)
    have outside : (lines ++ [l])[index]? = none := List.getElem?_eq_none (by simp; omega)
    simp only [branchAt, missing, outside]

theorem branchAt_append_length (lines : List Line) (l : Line) :
    branchAt (lines ++ [l]) lines.length = l.isBranch := by
  simp [branchAt]

theorem branchAt_append_plain {l : Line} (plain : l.isBranch = false) (lines : List Line)
    (index : Nat) : branchAt (lines ++ [l]) index = branchAt lines index := by
  by_cases same : index = lines.length
  · rw [same, branchAt_append_length, branchAt_length, plain]
  · exact branchAt_append_of_ne same l

theorem noted_append {l : Line} (branch : l.isBranch) (lines : List Line) (index : Nat) :
    (branchAt (lines ++ [l]) index).toNat =
      (branchAt lines index).toNat + [lines.length].count index := by
  by_cases same : index = lines.length
  · simp [same, branchAt_append_length, branchAt_length, branch]
  · have unequal : lines.length ≠ index := fun equal => same equal.symm
    simp [branchAt_append_of_ne same, unequal]

namespace Draft

/-- The sites that still wait for their targets. -/
def pending (d : Draft) : List Nat := d.frames.flatMap Frame.sites

structure Consistent (d : Draft) : Prop where
  noted : ∀ index, (d.pending ++ d.resolved).count index = (branchAt d.lines index).toNat
  label : d.label ≤ d.lines.length

theorem consistent_initial : ({} : Draft).Consistent := ⟨fun _ => rfl, Nat.le_refl 0⟩

theorem Consistent.branchAt_pending {d : Draft} (consistent : d.Consistent) {site : Nat}
    (member : site ∈ d.pending) : branchAt d.lines site := by
  have positive : 0 < (d.pending ++ d.resolved).count site :=
    List.count_pos_iff.mpr (List.mem_append_left _ member)
  rw [consistent.noted site] at positive
  cases branch : branchAt d.lines site with
  | true => rfl
  | false => rw [branch] at positive; cases positive

theorem aim?_eq {d : Draft} {site : Nat} (branch : branchAt d.lines site) (target : Nat) :
    d.aim? target site =
      some { d with lines := d.lines.modify site (Line.aim target)
                    resolved := d.resolved ++ [site] } := by
  have put {l : Line} (found : d.lines[site]? = some l) :
      d.lines.set site (l.aim target) = d.lines.modify site (Line.aim target) := by
    obtain ⟨inside, rfl⟩ := List.getElem?_eq_some_iff.mp found
    apply List.ext_getElem?
    intro index
    by_cases same : site = index
    · subst same
      simp [inside]
    · simp [same]
  cases found : d.lines[site]? with
  | none => simp [branchAt, found] at branch
  | some l =>
    cases l with
    | emit text => simp [branchAt, found, Line.isBranch] at branch
    | action a => simp [branchAt, found, Line.isBranch] at branch
    | branchIfFalse old => simp only [aim?, found, ← put found, Line.aim]
    | jump old => simp only [aim?, found, ← put found, Line.aim]

theorem foldlM_aim? {d : Draft} {sites : List Nat} (branches : ∀ site ∈ sites, branchAt d.lines site)
    (target : Nat) :
    sites.foldlM (aim? target) d =
      some { d with lines := aimAll target sites d.lines, resolved := d.resolved ++ sites } := by
  induction sites generalizing d with
  | nil => simp
  | cons site sites ih =>
    obtain ⟨first, rest⟩ := List.forall_mem_cons.mp branches
    rw [List.foldlM_cons, aim?_eq first, Option.bind_eq_bind, Option.bind_some, ih (by simpa using rest)]
    simp

theorem resolve?_eq {d : Draft} {sites : List Nat} (branches : ∀ site ∈ sites, branchAt d.lines site) :
    d.resolve? sites =
      some { d with lines := aimAll d.lines.length sites d.lines
                    resolved := d.resolved ++ sites
                    label := d.lines.length } := by
  rw [resolve?, foldlM_aim? branches, Option.map_some]

theorem close?_eq {d : Draft} (consistent : d.Consistent) {f : Frame} {frames : List Frame}
    (opened : d.frames = f :: frames) :
    d.close? =
      some { d with lines := aimAll d.lines.length f.sites d.lines
                    frames := frames
                    label := d.lines.length
                    resolved := d.resolved ++ f.sites } := by
  have branches : ∀ site ∈ f.sites, branchAt d.lines site := fun site member =>
    consistent.branchAt_pending (by simp [pending, opened, member])
  simp only [close?, opened]
  exact resolve?_eq branches

theorem alternative?_eq {d : Draft} (consistent : d.Consistent) {f : Frame} {frames : List Frame}
    (opened : d.frames = f :: frames) :
    d.alternative? =
      some { d with lines := aimAll (d.lines.length + 1) f.tests (d.lines ++ [.jump none])
                    frames := ⟨[], f.ends ++ [d.lines.length]⟩ :: frames
                    label := d.lines.length + 1
                    resolved := d.resolved ++ f.tests } := by
  have branches : ∀ site ∈ f.tests, branchAt (d.lines ++ [.jump none]) site := by
    intro site member
    have waiting : site ∈ d.pending := by simp [pending, opened, Frame.sites, member]
    exact branchAt_append_of_branch (consistent.branchAt_pending waiting) _
  simp only [alternative?, opened]
  rw [resolve?_eq branches]
  simp [push]

theorem Consistent.push {d : Draft} (consistent : d.Consistent) {l : Line}
    (plain : l.isBranch = false) : (d.push l).Consistent := by
  refine ⟨fun index => ?_, ?_⟩
  · rw [Draft.push, branchAt_append_plain plain]
    exact consistent.noted index
  · have bound := consistent.label
    simp [Draft.push]
    omega

theorem lastText?_eq_some {d : Draft} {lines : List Line} {text : String} :
    d.lastText? = some (lines, text) ↔ d.lines = lines ++ [.emit text] ∧ d.label ≤ lines.length := by
  constructor
  · intro last
    unfold lastText? at last
    split at last
    · rename_i found
      split at last
      · rename_i inside
        cases last
        obtain ⟨front, split⟩ := List.getLast?_eq_some_iff.mp found
        rw [split] at inside ⊢
        simp at inside ⊢
        omega
      · cases last
    · cases last
  · rintro ⟨split, label⟩
    simp [lastText?, split, Nat.lt_succ_of_le label]

theorem Consistent.emit {d : Draft} (consistent : d.Consistent) (text : String) :
    (d.emit text).Consistent := by
  unfold Draft.emit
  split
  · rename_i lines previous last
    obtain ⟨split, label⟩ := lastText?_eq_some.mp last
    refine ⟨fun index => ?_, ?_⟩
    · have noted := consistent.noted index
      rw [split, branchAt_append_plain rfl] at noted
      rw [branchAt_append_plain rfl]
      exact noted
    · simp
      omega
  · exact consistent.push rfl

theorem Consistent.test {d : Draft} (consistent : d.Consistent) : d.test.Consistent := by
  refine ⟨fun index => ?_, ?_⟩
  · have noted := consistent.noted index
    have lines : d.test.lines = d.lines ++ [.branchIfFalse none] := rfl
    rw [lines, noted_append rfl, ← noted]
    cases opened : d.frames with
    | nil =>
      simp only [Draft.test, Draft.push, pending, opened, Frame.sites, List.flatMap_cons,
        List.flatMap_nil, List.count_append, List.count_nil]
      omega
    | cons f frames =>
      simp only [Draft.test, Draft.push, pending, opened, Frame.sites, List.flatMap_cons,
        List.count_append]
      omega
  · have bound := consistent.label
    simp [Draft.test, Draft.push]
    omega

theorem Consistent.opening {d : Draft} (consistent : d.Consistent) :
    { d with frames := {} :: d.frames : Draft }.Consistent := by
  refine ⟨fun index => ?_, consistent.label⟩
  simpa [pending, Frame.sites] using consistent.noted index

theorem Consistent.alternative? {d : Draft} (consistent : d.Consistent) :
    ∃ r, d.alternative? = some r ∧ r.Consistent := by
  cases opened : d.frames with
  | nil => exact ⟨d, by simp [Draft.alternative?, opened], consistent⟩
  | cons f frames =>
    refine ⟨_, alternative?_eq consistent opened, fun index => ?_, by simp⟩
    have noted := consistent.noted index
    rw [branchAt_aimAll, noted_append rfl, ← noted]
    simp only [pending, opened, Frame.sites, List.flatMap_cons, List.count_append, List.count_nil]
    omega

theorem Consistent.close? {d : Draft} (consistent : d.Consistent) :
    ∃ r, d.close? = some r ∧ r.Consistent := by
  cases opened : d.frames with
  | nil => exact ⟨d, by simp [Draft.close?, opened], consistent⟩
  | cons f frames =>
    refine ⟨_, close?_eq consistent opened, fun index => ?_, by simp⟩
    have noted := consistent.noted index
    rw [branchAt_aimAll, ← noted]
    simp only [pending, opened, List.flatMap_cons, List.count_append]
    omega

end Draft

end TermTemplate
