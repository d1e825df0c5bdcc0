import TermTemplate.Proofs.DraftSites

/-! Code made in the order of the tokens and code made from the end are the same. A draft that is
completed by the fragment for the tokens to come is the invariant: each token moves over from the
fragment to the draft and leaves the completed code as it is. -/
namespace TermTemplate

theorem aimAll_append {sites : List Nat} {lines : List Line} (target : Nat)
    (inside : ∀ site ∈ sites, site < lines.length) (more : List Line) :
    aimAll target sites (lines ++ more) = aimAll target sites lines ++ more := by
  induction sites generalizing lines with
  | nil => rfl
  | cons site sites ih =>
    obtain ⟨first, rest⟩ := List.forall_mem_cons.mp inside
    have front : (lines ++ more).modify site (Line.aim target) =
        lines.modify site (Line.aim target) ++ more := by
      rw [List.modify_eq_take_cons_drop (by simp; omega), List.modify_eq_take_cons_drop first]
      simp [List.take_append_of_le_length (Nat.le_of_lt first),
        List.drop_append_of_le_length first, List.getElem_append_left first]
    rw [aimAll_cons, aimAll_cons, front, ih (by simpa using rest)]

theorem aimAll_append_last {sites : List Nat} {lines : List Line} (target : Nat)
    (inside : ∀ site ∈ sites, site < lines.length) (l : Line) :
    aimAll target (sites ++ [lines.length]) (lines ++ [l]) =
      aimAll target sites lines ++ [l.aim target] := by
  have last (front : List Line) :
      (front ++ [l]).modify front.length (Line.aim target) = front ++ [l.aim target] := by
    rw [List.modify_eq_take_cons_drop (by simp)]
    simp
  rw [aimAll_sites_append, aimAll_append target inside, aimAll_cons, aimAll_nil,
    ← length_aimAll target sites lines, last]

theorem Frame.forall_mem_sites {f : Frame} {p : Nat → Prop} :
    (∀ site ∈ f.sites, p site) ↔ (∀ site ∈ f.tests, p site) ∧ ∀ site ∈ f.ends, p site :=
  List.forall_mem_append

/-- Gives the sites of open conditionals their targets, for code behind them that starts at `base`. -/
def fill (base : Nat) : List Frame → List Exit → List Line → List Line
  | f :: frames, e :: exits, lines =>
    fill base frames exits (aimAll (base + e.finish) f.ends (aimAll (base + e.next) f.tests lines))
  | _, _, lines => lines

theorem fill_append {frames : List Frame} {lines : List Line}
    (inside : ∀ f ∈ frames, ∀ site ∈ f.sites, site < lines.length) (base : Nat)
    (exits : List Exit) (more : List Line) :
    fill base frames exits (lines ++ more) = fill base frames exits lines ++ more := by
  induction frames generalizing exits lines with
  | nil => simp [fill]
  | cons f frames ih =>
    cases exits with
    | nil => simp [fill]
    | cons e exits =>
      obtain ⟨first, rest⟩ := List.forall_mem_cons.mp inside
      obtain ⟨tests, ends⟩ := Frame.forall_mem_sites.mp first
      rw [fill, aimAll_append _ tests, aimAll_append _ (by simpa using ends),
        ih (by simpa using rest), fill]

theorem fill_further (base : Nat) (frames : List Frame) (exits : List Exit) (lines : List Line) :
    fill base frames (exits.map Exit.further) lines = fill (base + 1) frames exits lines := by
  induction frames generalizing exits lines with
  | nil => simp [fill]
  | cons f frames ih =>
    cases exits with
    | nil => simp [fill]
    | cons e exits =>
      have next : base + (e.next + 1) = base + 1 + e.next := by omega
      have finish : base + (e.finish + 1) = base + 1 + e.finish := by omega
      simp only [List.map_cons, fill, Exit.further, ih, next, finish]

/-- Lines with code behind them that supplies the exits of the open conditionals. -/
def joined (frames : List Frame) (exits : List Exit) (lines : List Line) (code : Code) :
    List Line :=
  fill lines.length frames exits lines ++ code.lines lines.length

theorem joined_cons {frames : List Frame} {lines : List Line}
    (inside : ∀ f ∈ frames, ∀ site ∈ f.sites, site < lines.length) (exits : List Exit)
    (i : Instruction) (code : Code) :
    joined frames (exits.map Exit.further) lines (i :: code) =
      joined frames exits (lines ++ [i.line lines.length]) code := by
  simp [joined, fill_append inside, fill_further, Code.lines]

/-- A test is the last site of its conditional that waits for the next mark. -/
theorem joined_test {g : Frame} {frames : List Frame} {lines : List Line}
    (inside : ∀ f ∈ g :: frames, ∀ site ∈ f.sites, site < lines.length) (e : Exit)
    (exits : List Exit) (code : Code) :
    joined ({ g with tests := g.tests ++ [lines.length] } :: frames) (e :: exits)
        (lines ++ [.branchIfFalse none]) code =
      joined (g :: frames) ((e :: exits).map Exit.further) lines (.branchIfFalse e.next :: code) := by
  obtain ⟨first, rest⟩ := List.forall_mem_cons.mp inside
  obtain ⟨tests, ends⟩ := Frame.forall_mem_sites.mp first
  rw [joined, joined, fill_further, fill, fill, List.length_append, List.length_singleton,
    aimAll_append_last _ tests, aimAll_append _ (by simpa using ends), fill_append (by simpa using rest),
    List.append_assoc]
  rfl

/-- The tests of an arm lead to behind the jump that ends it, and the jump waits with those of the
arms before. -/
theorem joined_alternative {g : Frame} {frames : List Frame} {lines : List Line}
    (inside : ∀ f ∈ g :: frames, ∀ site ∈ f.sites, site < lines.length) (e : Exit)
    (exits : List Exit) (code : Code) :
    joined (⟨[], g.ends ++ [lines.length]⟩ :: frames) (e :: exits)
        (aimAll (lines.length + 1) g.tests (lines ++ [.jump none])) code =
      joined (g :: frames) (({ e with next := 0 } :: exits).map Exit.further) lines
        (.jump e.finish :: code) := by
  obtain ⟨first, rest⟩ := List.forall_mem_cons.mp inside
  obtain ⟨tests, ends⟩ := Frame.forall_mem_sites.mp first
  have last := aimAll_append_last (lines.length + 1 + e.finish)
    ((length_aimAll (lines.length + 1) g.tests lines).symm ▸ ends) (.jump none)
  rw [length_aimAll] at last
  rw [joined, joined, fill_further, fill, fill, aimAll_append _ tests, List.length_append,
    length_aimAll, List.length_singleton, aimAll_nil, last, fill_append (by simpa using rest),
    List.append_assoc]
  rfl

theorem joined_closing (g : Frame) (frames : List Frame) (exits : List Exit) (lines : List Line)
    (code : Code) :
    joined frames exits (aimAll lines.length g.sites lines) code =
      joined (g :: frames) (⟨0, 0⟩ :: exits) lines code := by
  simp [joined, fill, Frame.sites, aimAll_sites_append]

/-- The text that a fragment starts with, if text in front can be joined to it, and the code behind. -/
def Fragment.firstText? (f : Fragment) : Option (String × Code) :=
  match f.sealed, f.code with
  | false, .emit text :: code => some (text, code)
  | _, _ => none

namespace Fragment

theorem firstText?_cons_text (text : String) (f : Fragment) :
    (f.cons (.emit text)).firstText? = some (text, f.code) := rfl

theorem firstText?_cons_other {i : Instruction} (other : ∀ text, i ≠ .emit text) (f : Fragment) :
    (f.cons i).firstText? = none := by
  cases i with
  | emit text => exact absurd rfl (other text)
  | _ => rfl

theorem emit_of_firstText? {f : Fragment} {next : String} {code : Code}
    (first : f.firstText? = some (next, code)) (text : String) :
    f.emit text = { f with code := .emit (text ++ next) :: code } ∧
      (f.emit text).firstText? = some (text ++ next, code) := by
  unfold firstText? at first
  split at first
  · rename_i unsealed head
    cases first
    simp [emit, firstText?, unsealed, head]
  · cases first

theorem emit_of_firstText?_none {f : Fragment} (first : f.firstText? = none) (text : String) :
    f.emit text = f.cons (.emit text) := by
  unfold firstText? at first
  unfold emit
  split
  · rename_i unsealed head
    simp [unsealed, head] at first
  · rfl

end Fragment

namespace Draft

/-- The code that a draft becomes with the code of a fragment behind it. Text is joined if it may be
on both sides. -/
def completed (d : Draft) (f : Fragment) : List Line :=
  match d.lastText?, f.firstText? with
  | some (lines, previous), some (next, code) =>
    joined d.frames f.exits lines (.emit (previous ++ next) :: code)
  | _, _ => joined d.frames f.exits d.lines f.code

theorem Consistent.inside {d : Draft} (consistent : d.Consistent) :
    ∀ f ∈ d.frames, ∀ site ∈ f.sites, site < d.lines.length := by
  intro f member site noted
  exact lt_of_branchAt (consistent.branchAt_pending (List.mem_flatMap.mpr ⟨f, member, noted⟩))

theorem Consistent.inside_lastText? {d : Draft} (consistent : d.Consistent) {lines : List Line}
    {text : String} (last : d.lastText? = some (lines, text)) :
    ∀ f ∈ d.frames, ∀ site ∈ f.sites, site < lines.length := by
  intro f member site noted
  have branch := consistent.branchAt_pending (List.mem_flatMap.mpr ⟨f, member, noted⟩)
  rw [(lastText?_eq_some.mp last).1, branchAt_append_plain rfl] at branch
  exact lt_of_branchAt branch

theorem lastText?_push {l : Line} (other : ∀ text, l ≠ .emit text) (d : Draft) :
    (d.push l).lastText? = none := by
  cases l with
  | emit text => exact absurd rfl (other text)
  | _ => simp [lastText?, push]

theorem lastText?_of_label {d : Draft} (label : d.label = d.lines.length) : d.lastText? = none := by
  unfold lastText?
  split
  · rw [if_neg (by omega)]
  · rfl

theorem completed_of_lastText? {d : Draft} (none : d.lastText? = none) (f : Fragment) :
    d.completed f = joined d.frames f.exits d.lines f.code := by
  simp [completed, none]

theorem completed_of_firstText? {f : Fragment} (none : f.firstText? = none) (d : Draft) :
    d.completed f = joined d.frames f.exits d.lines f.code := by
  cases d.lastText? <;> simp [completed, none]

/-- Text may be joined on either side of the seam, before or after the other side is. -/
theorem completed_emit {d : Draft} (consistent : d.Consistent) (text : String) (f : Fragment) :
    (d.emit text).completed f = d.completed (f.emit text) := by
  have bound := consistent.label
  cases last : d.lastText? with
  | none =>
    have put : d.emit text = d.push (.emit text) := by simp [emit, last]
    have after : (d.push (.emit text)).lastText? = some (d.lines, text) :=
      lastText?_eq_some.mpr ⟨rfl, bound⟩
    cases first : f.firstText? with
    | none =>
      rw [put, Fragment.emit_of_firstText?_none first]
      simp only [completed, last, first, after]
      exact (joined_cons consistent.inside f.exits (.emit text) f.code).symm
    | some front =>
      obtain ⟨next, code⟩ := front
      obtain ⟨merged, _⟩ := Fragment.emit_of_firstText? first text
      rw [put, merged]
      simp only [completed, last, first, after]
      rfl
  | some back =>
    obtain ⟨lines, previous⟩ := back
    have put : d.emit text = { d with lines := lines ++ [.emit (previous ++ text)] } := by
      simp [emit, last]
    have after : { d with lines := lines ++ [.emit (previous ++ text)] : Draft }.lastText? =
        some (lines, previous ++ text) :=
      lastText?_eq_some.mpr ⟨rfl, (lastText?_eq_some.mp last).2⟩
    cases first : f.firstText? with
    | none =>
      rw [put, Fragment.emit_of_firstText?_none first]
      simp only [completed, last, first, after, Fragment.firstText?_cons_text]
      exact (joined_cons (consistent.inside_lastText? last) f.exits (.emit (previous ++ text))
        f.code).symm
    | some front =>
      obtain ⟨next, code⟩ := front
      obtain ⟨merged, joins⟩ := Fragment.emit_of_firstText? first text
      rw [put]
      simp only [completed, last, first, after, joins, String.append_assoc]
      rw [merged]

theorem completed_action {d : Draft} (consistent : d.Consistent) (a : Action) (f : Fragment) :
    (d.push (.action a)).completed f = d.completed (f.cons (.action a)) := by
  rw [completed_of_lastText? (lastText?_push (by simp) d),
    completed_of_firstText? (Fragment.firstText?_cons_other (by simp) f)]
  exact (joined_cons consistent.inside f.exits (.action a) f.code).symm

theorem completed_opening (d : Draft) {f : Fragment} (inside : 0 < f.exits.length) :
    { d with frames := {} :: d.frames : Draft }.completed f = d.completed f.opening := by
  obtain ⟨e, exits, split⟩ := List.exists_cons_of_length_pos inside
  have fresh (lines : List Line) (code : Code) :
      joined ({} :: d.frames) f.exits lines code = joined d.frames f.opening.exits lines code := by
    simp [joined, Fragment.opening, split, fill]
  simp only [completed, fresh]
  rfl

theorem completed_test {d : Draft} (consistent : d.Consistent) {g : Frame} {frames : List Frame}
    (opened : d.frames = g :: frames) {f : Fragment} (inside : 0 < f.exits.length) :
    d.test.completed f = d.completed f.test := by
  obtain ⟨e, exits, split⟩ := List.exists_cons_of_length_pos inside
  have last : d.test.lastText? = none := lastText?_push (d := d) (l := .branchIfFalse none) (by simp)
  have first : f.test.firstText? = none := Fragment.firstText?_cons_other (by simp) f
  have lines : d.test.lines = d.lines ++ [.branchIfFalse none] := rfl
  have waiting : d.test.frames = { g with tests := g.tests ++ [d.lines.length] } :: frames := by
    simp [test, push, opened]
  have code : f.test.code = .branchIfFalse e.next :: f.code := by
    simp [Fragment.test, Fragment.cons, Fragment.exit, split]
  have further : f.test.exits = (e :: exits).map Exit.further := by
    simp [Fragment.test, Fragment.cons, split]
  rw [completed_of_lastText? last, completed_of_firstText? first, lines, waiting, code, further,
    opened, split]
  exact joined_test (opened ▸ consistent.inside) e exits f.code

theorem completed_alternative {d r : Draft} (consistent : d.Consistent) {g : Frame}
    {frames : List Frame} (opened : d.frames = g :: frames) (made : d.alternative? = some r)
    {f : Fragment} (inside : 0 < f.exits.length) : r.completed f = d.completed f.alternative := by
  obtain ⟨e, exits, split⟩ := List.exists_cons_of_length_pos inside
  rw [alternative?_eq consistent opened] at made
  cases made
  have first : f.alternative.firstText? = none := Fragment.firstText?_cons_other (by simp) _
  have code : f.alternative.code = .jump e.finish :: f.code := by
    simp [Fragment.alternative, Fragment.cons, Fragment.exit, split]
  have further : f.alternative.exits = ({ e with next := 0 } :: exits).map Exit.further := by
    simp [Fragment.alternative, Fragment.cons, Fragment.exit, split]
  rw [completed_of_lastText? (lastText?_of_label (by simp)), completed_of_firstText? first, code, further,
    opened, split]
  exact joined_alternative (opened ▸ consistent.inside) e exits f.code

theorem completed_closing {d r : Draft} (consistent : d.Consistent) {g : Frame}
    {frames : List Frame} (opened : d.frames = g :: frames) (made : d.close? = some r)
    (f : Fragment) : r.completed f = d.completed f.closing := by
  rw [close?_eq consistent opened] at made
  cases made
  have first : f.closing.firstText? = none := rfl
  rw [completed_of_lastText? (lastText?_of_label (by simp)), completed_of_firstText? first, opened]
  exact joined_closing g frames f.exits d.lines f.code

@[simp] theorem frames_emit (d : Draft) (text : String) : (d.emit text).frames = d.frames := by
  unfold emit
  split <;> rfl

theorem frames_close? {d r : Draft} (consistent : d.Consistent) {g : Frame} {frames : List Frame}
    (opened : d.frames = g :: frames) (made : d.close? = some r) : r.frames = frames := by
  rw [close?_eq consistent opened] at made
  cases made
  rfl

/-- One token: it neither fails nor loses a site, and it moves from the fragment to the draft. -/
theorem token?_completed (keepPadding : Bool) {d : Draft} (consistent : d.Consistent) (t : Token) :
    ∃ r, d.token? keepPadding t = some r ∧ r.Consistent ∧ ∀ ts,
      r.completed (.ofTokens keepPadding r.frames.length ts) =
        d.completed (.ofTokens keepPadding d.frames.length (t :: ts)) := by
  have filled (depth : Nat) (ts : List Token) :
      0 < (Fragment.ofTokens keepPadding (depth + 1) ts).exits.length := by
    simp [Fragment.length_exits_ofTokens]
  cases t with
  | literal text =>
    refine ⟨_, rfl, consistent.emit text, fun ts => ?_⟩
    rw [completed_emit consistent, frames_emit]
    rfl
  | padding text =>
    cases keepPadding with
    | true =>
      refine ⟨_, rfl, consistent.emit text, fun ts => ?_⟩
      rw [if_pos rfl, completed_emit consistent, frames_emit]
      rfl
    | false => exact ⟨d, rfl, consistent, fun ts => rfl⟩
  | action a =>
    have pushed := consistent.push (l := .action a) rfl
    exact ⟨_, rfl, ⟨pushed.noted, pushed.label⟩, fun ts => completed_action consistent a _⟩
  | increment => exact ⟨_, rfl, ⟨consistent.noted, consistent.label⟩, fun ts => rfl⟩
  | beginIf => exact ⟨_, rfl, consistent.opening, fun ts => completed_opening d (filled _ ts)⟩
  | thenArm =>
    refine ⟨_, rfl, consistent.test, fun ts => ?_⟩
    cases opened : d.frames with
    | nil =>
      -- Without a conditional the test opens one, as `%?` before it would.
      have implicit : d.test = { d with frames := [{}] : Draft }.test := by
        simp [test, push, opened]
      have explicit := completed_opening d (f := (Fragment.ofTokens keepPadding 1 ts).test)
        (by simpa [Fragment.test] using filled 0 ts)
      rw [opened] at explicit
      have fresh := consistent.opening
      rw [opened] at fresh
      rw [implicit]
      exact (completed_test fresh rfl (filled 0 ts)).trans explicit
    | cons g frames =>
      have depth : d.test.frames.length = frames.length + 1 := by simp [test, push, opened]
      rw [depth]
      exact completed_test consistent opened (filled frames.length ts)
  | elseArm =>
    obtain ⟨r, made, preserved⟩ := consistent.alternative?
    refine ⟨r, made, preserved, fun ts => ?_⟩
    cases opened : d.frames with
    | nil =>
      obtain rfl : d = r := by simpa [Draft.alternative?, opened] using made
      rw [opened]
      rfl
    | cons g frames =>
      have depth : r.frames.length = frames.length + 1 := by
        rw [alternative?_eq consistent opened] at made
        cases made
        rfl
      rw [depth]
      exact completed_alternative consistent opened made (filled frames.length ts)
  | endIf =>
    obtain ⟨r, made, preserved⟩ := consistent.close?
    refine ⟨r, made, preserved, fun ts => ?_⟩
    cases opened : d.frames with
    | nil =>
      obtain rfl : d = r := by simpa [Draft.close?, opened] using made
      rw [opened]
      rfl
    | cons g frames =>
      rw [frames_close? consistent opened made]
      exact completed_closing consistent opened made _

theorem token?_totals {keepPadding : Bool} {d r : Draft} (consistent : d.Consistent) {t : Token}
    (made : d.token? keepPadding t = some r) :
    (r.increment ↔ d.increment ∨ t = .increment) ∧ r.arity = max d.arity t.arity := by
  have emitted (text : String) : (d.emit text).increment = d.increment ∧
      (d.emit text).arity = d.arity := by
    unfold emit
    split <;> exact ⟨rfl, rfl⟩
  cases t with
  | literal text => cases made; simp [Token.arity, emitted text]
  | padding text =>
    cases made
    cases keepPadding with
    | true => simp [Token.arity, emitted text]
    | false => simp [Token.arity]
  | action a => cases made; simp [push]
  | increment => cases made; simp [Token.arity]
  | beginIf => cases made; simp [Token.arity]
  | thenArm => cases made; simp [Token.arity, test, push]
  | elseArm =>
    cases opened : d.frames with
    | nil => simp [token?, alternative?, opened] at made; simp [Token.arity, made]
    | cons g frames =>
      rw [token?, alternative?_eq consistent opened] at made
      cases made
      simp [Token.arity]
  | endIf =>
    cases opened : d.frames with
    | nil => simp [token?, close?, opened] at made; simp [Token.arity, made]
    | cons g frames =>
      rw [token?, close?_eq consistent opened] at made
      cases made
      simp [Token.arity]

/-- A whole template, from any draft on. -/
theorem foldlM_token? (keepPadding : Bool) {d : Draft} (consistent : d.Consistent)
    (ts : List Token) :
    ∃ r, ts.foldlM (token? keepPadding) d = some r ∧ r.Consistent ∧
      r.completed (.ending r.frames.length) =
        d.completed (.ofTokens keepPadding d.frames.length ts) ∧
      (r.increment ↔ d.increment ∨ .increment ∈ ts) ∧
      r.arity = (ts.map Token.arity).foldl max d.arity := by
  induction ts generalizing d with
  | nil => exact ⟨d, rfl, consistent, rfl, by simp, rfl⟩
  | cons t ts ih =>
    obtain ⟨r, made, preserved, moved⟩ := token?_completed keepPadding consistent t
    obtain ⟨increment, arity⟩ := token?_totals consistent made
    obtain ⟨final, run, later, whole, increments, arities⟩ := ih preserved
    refine ⟨final, ?_, later, whole.trans (moved ts), ?_, ?_⟩
    · rw [List.foldlM_cons, made]
      exact run
    · rw [increments, increment, List.mem_cons, or_assoc, eq_comm (a := t)]
    · rw [arities, arity, List.map_cons, List.foldl_cons]

theorem finish?_completed {d : Draft} (consistent : d.Consistent) :
    ∃ r, d.finish? = some r ∧ r.Consistent ∧ r.frames = [] ∧
      r.lines = d.completed (.ending d.frames.length) ∧
      r.increment = d.increment ∧ r.arity = d.arity := by
  unfold finish?
  generalize opened : d.frames = frames
  induction frames generalizing d with
  | nil =>
    refine ⟨d, rfl, consistent, opened, ?_, rfl, rfl⟩
    rw [completed_of_firstText? rfl, opened]
    simp [joined, fill, Fragment.ending, Code.lines]
  | cons g frames ih =>
    obtain ⟨r, made, preserved⟩ := consistent.close?
    have ended : d.token? false .endIf = some r := made
    obtain ⟨increment, arity⟩ := token?_totals consistent ended
    obtain ⟨final, run, later, closed, lines, increments, arities⟩ :=
      ih preserved (frames_close? consistent opened made)
    refine ⟨final, ?_, later, closed, ?_, ?_, ?_⟩
    · rw [List.foldlM_cons, made]
      exact run
    · rw [lines, completed_closing consistent opened made, completed_of_firstText? rfl,
        completed_of_firstText? rfl]
      rfl
    · rw [increments, Bool.eq_iff_iff, increment]
      simp
    · simpa [arity, Token.arity] using arities

/-- Both ways make the same program. In the end no site waits for a target any more. -/
theorem ofTokens?_eq (keepPadding : Bool) (ts : List Token) :
    ∃ d, ofTokens? keepPadding ts = some d ∧ d.Consistent ∧ d.pending = [] ∧
      d.lines = (Program.ofTokens keepPadding ts).code.lines 0 ∧
      d.increment = (Program.ofTokens keepPadding ts).increment ∧
      d.arity = (Program.ofTokens keepPadding ts).arity := by
  obtain ⟨r, run, consistent, whole, increment, arity⟩ :=
    foldlM_token? keepPadding consistent_initial ts
  obtain ⟨d, finish, preserved, closed, lines, increments, arities⟩ := finish?_completed consistent
  refine ⟨d, by rw [ofTokens?, run]; exact finish, preserved, by simp [pending, closed], ?_, ?_, ?_⟩
  · rw [lines, whole, completed_of_lastText? rfl]
    simp [joined, fill, Program.ofTokens]
  · rw [increments, Bool.eq_iff_iff, increment]
    simp [Program.ofTokens]
  · rw [arities, arity]
    rfl

end Draft

end TermTemplate
