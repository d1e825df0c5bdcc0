import Mathlib.Data.List.Basic
import TermTemplate.Proofs.CompiledRun
import TermTemplate.Proofs.RelatedRuns

/-! Padding in the output. Whether it is kept makes no difference to anything else: the walk over the
tokens goes the same way and leaves the same variables, and the outputs differ in the padding that was
passed on the way. The two programs need not be compared themselves; their code differs in length. -/
namespace TermTemplate

inductive Piece
  | text (t : String)
  | padding (t : String)
  deriving DecidableEq, Repr

namespace Piece

def content : Piece → String
  | text t | padding t => t

def text? : Piece → Option String
  | text t => some t
  | padding _ => none

end Piece

/-- The first state has padding from the tokens in its output, which the second lacks. They are the
same otherwise. -/
structure State.Padded (ts : List Token) (s t : State) : Prop where
  stack : s.stack = t.stack
  dynamics : s.dynamics = t.dynamics
  statics : s.statics = t.statics
  output : ∃ pieces : List Piece, (∀ text, .padding text ∈ pieces → .padding text ∈ ts) ∧
    s.output = String.join (pieces.map Piece.content) ∧
    t.output = String.join (pieces.filterMap Piece.text?)

namespace State.Padded

variable {ts : List Token} {s t : State}

theorem initial (ts : List Token) (statics : Variables) : Padded ts { statics } { statics } :=
  ⟨rfl, rfl, rfl, [], by simp⟩

theorem write (padded : Padded ts s t) (text : String) :
    Padded ts (s.write text) (t.write text) := by
  obtain ⟨pieces, found, kept, plain⟩ := padded.output
  refine { padded with output := ⟨pieces ++ [.text text], ?_, ?_, ?_⟩ }
  · simpa using found
  · simp [State.write, Piece.content, kept]
  · simp [State.write, Piece.text?, plain]

theorem pad (padded : Padded ts s t) {text : String} (member : .padding text ∈ ts) :
    Padded ts (s.write text) t := by
  obtain ⟨pieces, found, kept, plain⟩ := padded.output
  refine { padded with output := ⟨pieces ++ [.padding text], ?_, ?_, ?_⟩ }
  · intro other inside
    rcases List.mem_append.mp inside with before | last
    · exact found other before
    · cases List.mem_singleton.mp last
      exact member
  · simp [State.write, Piece.content, kept]
  · simp [List.filterMap_cons, Piece.text?, plain]

theorem store (padded : Padded ts s t) (v : Value) (x : Variable) :
    Padded ts (s.store v x) (t.store v x) := by
  cases x with
  | dynamic i => exact { padded with dynamics := by simp only [State.store, padded.dynamics] }
  | static i => exact { padded with statics := by simp only [State.store, padded.statics] }

theorem congruence : Congruence (Padded ts) where
  stack padded := padded.stack
  drop padded := { padded with stack := congrArg List.tail padded.stack }
  push v padded := { padded with stack := congrArg (v :: ·) padded.stack }
  store v x padded := padded.store v x
  write text padded := padded.write text

theorem load (padded : Padded ts s t) (x : Variable) : s.load x = t.load x := by
  cases x with
  | dynamic i => rw [State.load, State.load, padded.dynamics]
  | static i => rw [State.load, State.load, padded.statics]

theorem apply (padded : Padded ts s t) (ps : Parameters) (a : Action) :
    Padded ts (a.apply ps s) (a.apply ps t) :=
  congruence.apply padded (fun _ _ => rfl) fun x _ => padded.load x

end State.Padded

namespace Template

/-- Both walks take the same way. -/
theorem walk_padded (ps : Parameters) {ts us : List Token} (inside : us ⊆ ts) (depth : Nat)
    {s t : State} (padded : s.Padded ts t) :
    (walk true ps depth us s).Padded ts (walk false ps depth us t) := by
  have top {s t : State} (padded : s.Padded ts t) := State.Padded.congruence.top padded
  have drop {s t : State} (padded : s.Padded ts t) := State.Padded.congruence.drop padded
  fun_induction walk true ps depth us s generalizing t with
  | case1 => simpa only [walk] using padded
  | case2 depth s text us ih =>
    rw [walk]
    exact ih (List.subset_of_cons_subset inside) (padded.write text)
  | case3 depth s text us ih =>
    rw [walk]
    exact ih (List.subset_of_cons_subset inside) (padded.pad (inside (.head _)))
  | case4 depth s a us ih =>
    rw [walk]
    exact ih (List.subset_of_cons_subset inside) (padded.apply ps a)
  | case5 depth s us ih | case6 depth s us ih | case11 depth s us ih =>
    rw [walk]
    exact ih (List.subset_of_cons_subset inside) padded
  | case7 depth s us truthy ih =>
    rw [top padded] at truthy
    rw [walk, if_pos truthy]
    exact ih (List.subset_of_cons_subset inside) (drop padded)
  | case8 depth s us falsy landing ih =>
    rw [top padded] at falsy
    rw [walk, if_neg falsy]
    have behind : landing.2 ⊆ us := (skipArm_suffix true 0 us).subset
    exact ih (List.Subset.trans behind (List.subset_of_cons_subset inside)) (drop padded)
  | case9 s us ih =>
    rw [walk, if_pos rfl]
    exact ih (List.subset_of_cons_subset inside) padded
  | case10 depth s us opened ih =>
    rw [walk, if_neg opened]
    have behind : (skipArm false 0 us).2 ⊆ us := (skipArm_suffix false 0 us).subset
    exact ih (List.Subset.trans behind (List.subset_of_cons_subset inside)) padded

end Template

theorem Program.execute_padded (ts : List Token) (params : List Value) (statics : Variables) :
    ((ofTokens true ts).execute params statics).Padded ts
      ((ofTokens false ts).execute params statics) := by
  rw [execute, execute, ofTokens, ofTokens, run_ofTokens, run_ofTokens]
  exact Template.walk_padded _ (List.Subset.refl ts) 0 (.initial ts statics)

namespace Method

/-- A template compiles with its padding if and only if it compiles without, to the same arity. Calls
leave the same static variables, and their outputs are made of the same pieces: those of text are the
one output, and together with pieces of padding, as the template holds it, they are the other. -/
theorem padding_erased (source : String) :
    ((∃ m, compile source ⟨true⟩ = .ok m) ↔ ∃ m, compile source ⟨false⟩ = .ok m) ∧
    ∀ kept plain, compile source ⟨true⟩ = .ok kept → compile source ⟨false⟩ = .ok plain →
      kept.arity = plain.arity ∧
      ∀ (statics : Variables) (params : List Value),
        (kept.callWith statics params).2 = (plain.callWith statics params).2 ∧
        ∃ pieces : List Piece,
          (∀ text, .padding text ∈ pieces → Template.Holds source (.padding text)) ∧
          (kept.callWith statics params).1 = String.join (pieces.map Piece.content) ∧
          (plain.callWith statics params).1 = String.join (pieces.filterMap Piece.text?) := by
  refine ⟨exists_compile.trans exists_compile.symm, ?_⟩
  intro kept plain keeping dropping
  obtain ⟨ts, read, rfl⟩ := compile_eq_ok.mp keeping
  obtain ⟨us, again, rfl⟩ := compile_eq_ok.mp dropping
  obtain rfl : ts = us := Except.ok.inj (read.symm.trans again)
  refine ⟨rfl, fun statics params => ?_⟩
  obtain ⟨_, _, same, pieces, found, outputs⟩ := Program.execute_padded ts params statics
  refine ⟨same, pieces, fun text member => ?_, outputs⟩
  exact (Template.holds_iff read).mpr (found text member)

/-- Padding that is passed and padding in an arm that is not taken. -/
theorem padding_erased_arms :
    ∃ kept plain, compile "a$<5>%?%p1%tb$<10/>%e$<3>%;" ⟨true⟩ = .ok kept ∧
      compile "a$<5>%?%p1%tb$<10/>%e$<3>%;" ⟨false⟩ = .ok plain ∧
      kept.call [.integer 1] = "a$<5>b$<10/>" ∧ plain.call [.integer 1] = "ab" ∧
      ∀ statics params, (kept.callWith statics params).2 = (plain.callWith statics params).2 := by
  have read : Template.tokens "a$<5>%?%p1%tb$<10/>%e$<3>%;" =
      .ok [.literal "a", .padding "$<5>", .beginIf, .action (.parameter 0), .thenArm, .literal "b",
        .padding "$<10/>", .elseArm, .padding "$<3>", .endIf] := by decide +kernel
  have keeping : compile _ ⟨true⟩ = .ok _ := compile_eq_ok.mpr ⟨_, read, rfl⟩
  have dropping : compile _ ⟨false⟩ = .ok _ := compile_eq_ok.mpr ⟨_, read, rfl⟩
  refine ⟨_, _, keeping, dropping, by decide +kernel, by decide +kernel, fun statics params => ?_⟩
  exact (((padding_erased _).2 _ _ keeping dropping).2 statics params).1

end Method

end TermTemplate
