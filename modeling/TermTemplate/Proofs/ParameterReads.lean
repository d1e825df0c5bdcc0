import Mathlib.Order.Bounds.Defs
import TermTemplate.Proofs.NormalForm
import TermTemplate.Proofs.RelatedRuns

/-! What a program sees of its parameters. It reads them by index below its arity, a missing one as 0,
and all that `%i` does is to make it see the first two incremented, wherever it reads them. -/
namespace TermTemplate

def Value.successor : Value → Value
  | integer n => .integer (n + 1)
  | text s => .text s

/-- At least two parameters, filled up with 0, of which the first two count one more. -/
def incremented (params : List Value) : List Value :=
  let filled := params.rightpad 2 (.integer 0)
  (filled.take 2).map Value.successor ++ filled.drop 2

/-- The template names the parameter with this number, which counts from 1. -/
def Template.Names (source : String) (n : Nat) : Prop :=
  ∃ index, Holds source (.action (.parameter index)) ∧ n = index + 1

theorem getD_append_zeros (params : List Value) (n index : Nat) :
    (params ++ List.replicate n (.integer 0))[index]?.getD default = params[index]?.getD default := by
  rcases Nat.lt_or_ge index params.length with inside | outside
  · rw [List.getElem?_append_left inside]
  · rw [List.getElem?_append_right outside, List.getElem?_eq_none outside, List.getElem?_replicate]
    split <;> rfl

namespace Parameters

theorem get_of_getD {p q : List Value} {index : Nat}
    (same : p[index]?.getD default = q[index]?.getD default) (increment : Bool) :
    get ⟨p, increment⟩ index = get ⟨q, increment⟩ index := by
  simp only [get, same]

theorem get_incremented (params : List Value) (index : Nat) :
    get ⟨incremented params, false⟩ index = get ⟨params, true⟩ index := by
  obtain ⟨first, second, rest, filled⟩ :
      ∃ first second rest, params.rightpad 2 (.integer 0) = first :: second :: rest := by
    match params with
    | [] => exact ⟨_, _, _, rfl⟩
    | [first] => exact ⟨first, _, _, rfl⟩
    | first :: second :: rest => exact ⟨first, second, rest, by simp⟩
  calc get ⟨incremented params, false⟩ index
    _ = get ⟨first.successor :: second.successor :: rest, false⟩ index := by
        rw [incremented, filled]
        rfl
    _ = get ⟨first :: second :: rest, true⟩ index := by
        match index with
        | 0 => cases first <;> rfl
        | 1 => cases second <;> rfl
        | index + 2 =>
          have beyond : ¬index + 2 < 2 := by omega
          simp [get, beyond]
    _ = get ⟨params, true⟩ index := by
        rw [← filled]
        exact get_of_getD (getD_append_zeros params _ index) true

end Parameters

/-- No code is made for `%i`, and none is kept apart by it. -/
theorem Fragment.ofTokens_filter_increment (keepPadding : Bool) (depth : Nat) (ts : List Token) :
    ofTokens keepPadding depth (ts.filter (· != .increment)) = ofTokens keepPadding depth ts := by
  induction ts generalizing depth with
  | nil => rfl
  | cons t ts ih =>
    cases t with
    | thenArm => cases depth <;> simp [ofTokens, ih]
    | elseArm => cases depth <;> simp [ofTokens, ih]
    | endIf => cases depth <;> simp [ofTokens, ih]
    | _ => simp [ofTokens, ih]

/-- One `%i`, wherever it stands, does to the whole template what an increment of the first two
parameters does before it is called: without it the instructions and the arity are the same, and on
incremented parameters so is the run. -/
theorem Program.increment_hoisted (keepPadding : Bool) {ts : List Token} (present : .increment ∈ ts) :
    let program := ofTokens keepPadding ts
    let bare := ofTokens keepPadding (ts.filter (· != .increment))
    program.code = bare.code ∧ program.arity = bare.arity ∧
      ∀ params statics,
        program.execute params statics = bare.execute (incremented params) statics := by
  intro program bare
  have code : program.code = bare.code :=
    congrArg Fragment.code (Fragment.ofTokens_filter_increment keepPadding 0 ts).symm
  have arity : program.arity = bare.arity := arity_ofTokens_congr (by simp)
  have increments : program.increment = true := List.contains_iff_mem.mpr present
  have plain : bare.increment = false := by simp [bare, ofTokens]
  refine ⟨code, arity, fun params statics => ?_⟩
  rw [execute, execute, increments, plain, code]
  exact Code.run_congr (fun index _ => (Parameters.get_incremented params index).symm) _

/-- The increment stands between two texts, in an arm that is not taken, and reaches the end of the
range and a parameter that is missing. -/
theorem Program.increment_hoisted_untaken :
    ((ofTokens false
        [.action (.parameter 1), .action (.print ⟨.decimal, {}⟩), .literal "a", .increment,
          .literal "b", .action (.integer 0), .thenArm, .increment, .endIf,
          .action (.parameter 0), .action (.print ⟨.decimal, {}⟩)]).execute
      [.integer Int64.maxValue] .initial).output = "1ab-9223372036854775808" := by
  rw [(increment_hoisted false (by decide)).2.2]
  decide +kernel

namespace Method

variable {source : String} {options : Options} {m : Method}

theorem isGreatest_arity (compiled : compile source options = .ok m) :
    IsGreatest (insert 0 {n | Template.Names source n}) m.arity := by
  obtain ⟨ts, read, rfl⟩ := compile_eq_ok.mp compiled
  have names (n : Nat) : Template.Names source n ↔
      ∃ index, .action (.parameter index) ∈ ts ∧ n = index + 1 := by
    simp only [Template.Names, Template.holds_iff read]
  have bounds (n : Nat) : (Program.ofTokens options.keepPadding ts).arity ≤ n ↔
      ∀ index, .action (.parameter index) ∈ ts → index < n := Program.arity_ofTokens_le_iff
  constructor
  · -- Were the last parameter below the arity not named, a smaller bound would do.
    rcases last : (Program.ofTokens options.keepPadding ts).arity with _ | n
    · exact .inl last
    · refine .inr ((names _).mpr ⟨n, ?_, last⟩)
      by_contra missing
      have smaller : (Program.ofTokens options.keepPadding ts).arity ≤ n := by
        refine (bounds n).mpr fun index member => ?_
        have below : index < n + 1 := (bounds (n + 1)).mp (Nat.le_of_eq last) index member
        have other : index ≠ n := fun same => missing (same ▸ member)
        omega
      omega
  · rintro n (rfl | named)
    · exact Nat.zero_le _
    · obtain ⟨index, member, rfl⟩ := (names n).mp named
      exact (bounds _).mp (Nat.le_refl _) index member

theorem arity_le (compiled : compile source options = .ok m) : m.arity ≤ 9 := by
  obtain ⟨ts, read, rfl⟩ := compile_eq_ok.mp compiled
  have normal := Template.normal_of_tokens read
  exact Program.arity_ofTokens_le_iff.mpr fun index member => normal.each _ member

theorem callWith_congr (compiled : compile source options = .ok m) {p q : List Value}
    (same : ∀ index < m.arity, p[index]?.getD default = q[index]?.getD default)
    (statics : Variables) : m.callWith statics p = m.callWith statics q := by
  obtain ⟨ts, read, rfl⟩ := compile_eq_ok.mp compiled
  have run : (Program.ofTokens options.keepPadding ts).execute p statics =
      (Program.ofTokens options.keepPadding ts).execute q statics := by
    refine Code.run_congr (fun index member => Parameters.get_of_getD (same index ?_) _) _
    exact Program.arity_ofTokens_le_iff.mp (Nat.le_refl _) index (Fragment.mem_ofTokens member)
  rw [callWith, callWith, run]

/-- The arity of a method is the highest parameter number in its template, at most 9. Parameters that
are alike up to there, missing ones taken as 0, give the same output and the same static variables; so
parameters beyond may be cut off, and zeros put at the end, with or without `%i`. -/
theorem arity_bounds_reads (compiled : compile source options = .ok m) :
    IsGreatest (insert 0 {n | Template.Names source n}) m.arity ∧ m.arity ≤ 9 ∧
    (∀ (p q : List Value) (statics : Variables),
      (∀ index < m.arity, p[index]?.getD (.integer 0) = q[index]?.getD (.integer 0)) →
        m.callWith statics p = m.callWith statics q) ∧
    (∀ (p : List Value) (statics : Variables),
      m.callWith statics (p.take m.arity) = m.callWith statics p) ∧
    (∀ (p : List Value) (n : Nat) (statics : Variables),
      m.callWith statics (p ++ List.replicate n (.integer 0)) = m.callWith statics p) := by
  refine ⟨isGreatest_arity compiled, arity_le compiled,
    fun p q statics same => callWith_congr compiled same statics, fun p statics => ?_,
    fun p n statics => ?_⟩
  · refine callWith_congr compiled (fun index inside => ?_) statics
    rw [List.getElem?_take_of_lt inside]
  · exact callWith_congr compiled (fun index _ => getD_append_zeros p n index) statics

/-- Of three parameters the first two are read, and the second may as well be missing. -/
theorem arity_bounds_reads_two :
    ∃ m, compile "%i%p2%d;%p1%d" = .ok m ∧ m.arity = 2 ∧ ∀ statics,
      m.callWith statics [.integer 3, .integer 0, .text "x"] = m.callWith statics [.integer 3] := by
  have read : Template.tokens "%i%p2%d;%p1%d" =
      .ok [.increment, .action (.parameter 1), .action (.print ⟨.decimal, {}⟩), .literal ";",
        .action (.parameter 0), .action (.print ⟨.decimal, {}⟩)] := by decide +kernel
  have compiled : compile "%i%p2%d;%p1%d" = .ok _ := compile_eq_ok.mpr ⟨_, read, rfl⟩
  refine ⟨_, compiled, rfl, fun statics => ?_⟩
  exact (arity_bounds_reads compiled).2.2.1 _ _ statics (by decide)

end Method

end TermTemplate
