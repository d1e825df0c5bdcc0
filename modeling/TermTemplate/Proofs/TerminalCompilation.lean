import Mathlib.Data.String.Basic
import TermTemplate.Terminal

/-! Making the capabilities of a terminal type ready. Either every template is accepted, and then each
capability has the method of its own template; or the least capability whose template is refused is
reported with the reason, and nothing that comes after it matters. -/
namespace TermTemplate.Terminal

variable {options : Options}

theorem compileStrings_cons_eq_ok {capability template : String} {rest : List (String × String)}
    {methods : List (String × Method)} :
    compileStrings options ((capability, template) :: rest) = .ok methods ↔
      ∃ m others, Method.compile template options = .ok m ∧
        compileStrings options rest = .ok others ∧ (capability, m) :: others = methods := by
  cases first : Method.compile template options with
  | error reason => simp [compileStrings, first]
  | ok m =>
    cases others : compileStrings options rest <;> simp [compileStrings, first, others, Except.map]

theorem compileStrings_cons_eq_error {capability template : String} {rest : List (String × String)}
    {e : Error} :
    compileStrings options ((capability, template) :: rest) = .error e ↔
      (Method.compile template options = .error e.reason ∧ capability = e.capability) ∨
      ((∃ m, Method.compile template options = .ok m) ∧ compileStrings options rest = .error e) := by
  obtain ⟨name, cause⟩ := e
  cases first : Method.compile template options with
  | error reason => simp [compileStrings, first, and_comm]
  | ok m =>
    cases others : compileStrings options rest <;> simp [compileStrings, first, others, Except.map]

theorem exists_compileStrings {given : List (String × String)} :
    (∃ methods, compileStrings options given = .ok methods) ↔
      ∀ entry ∈ given, ∃ m, Method.compile entry.2 options = .ok m := by
  induction given with
  | nil => simp [compileStrings]
  | cons entry rest ih =>
    rw [List.forall_mem_cons, ← ih]
    constructor
    · rintro ⟨methods, made⟩
      obtain ⟨m, others, first, behind, rfl⟩ := compileStrings_cons_eq_ok.mp made
      exact ⟨⟨m, first⟩, others, behind⟩
    · rintro ⟨⟨m, first⟩, others, behind⟩
      exact ⟨_, compileStrings_cons_eq_ok.mpr ⟨m, others, first, behind, rfl⟩⟩

theorem keys_compileStrings {given : List (String × String)} {methods : List (String × Method)}
    (made : compileStrings options given = .ok methods) :
    methods.map Prod.fst = given.map Prod.fst := by
  induction given generalizing methods with
  | nil =>
    cases made
    rfl
  | cons entry rest ih =>
    obtain ⟨m, others, _, behind, rfl⟩ := compileStrings_cons_eq_ok.mp made
    rw [List.map_cons, List.map_cons, ih behind]

theorem mem_compileStrings {given : List (String × String)} {methods : List (String × Method)}
    (made : compileStrings options given = .ok methods) {capability : String} {m : Method} :
    (capability, m) ∈ methods ↔
      ∃ template, (capability, template) ∈ given ∧ Method.compile template options = .ok m := by
  induction given generalizing methods with
  | nil =>
    cases made
    simp
  | cons entry rest ih =>
    obtain ⟨name, source⟩ := entry
    obtain ⟨first, others, compiled, behind, rfl⟩ := compileStrings_cons_eq_ok.mp made
    simp only [List.mem_cons, Prod.mk.injEq, ih behind, or_and_right, exists_or]
    refine or_congr ⟨?_, ?_⟩ Iff.rfl
    · rintro ⟨rfl, rfl⟩
      exact ⟨source, ⟨rfl, rfl⟩, compiled⟩
    · rintro ⟨_, ⟨rfl, rfl⟩, again⟩
      rw [compiled] at again
      cases again
      exact ⟨rfl, rfl⟩

/-- What is reported stands behind accepted templates only. -/
theorem compileStrings_refused {given : List (String × String)} {e : Error}
    (refused : compileStrings options given = .error e) :
    ∃ before template after, given = before ++ (e.capability, template) :: after ∧
      (∀ entry ∈ before, ∃ m, Method.compile entry.2 options = .ok m) ∧
      Method.compile template options = .error e.reason := by
  induction given with
  | nil => cases refused
  | cons entry rest ih =>
    obtain ⟨name, source⟩ := entry
    rcases compileStrings_cons_eq_error.mp refused with ⟨cause, rfl⟩ | ⟨accepted, behind⟩
    · exact ⟨[], source, rest, rfl, by simp, cause⟩
    · obtain ⟨before, template, after, rfl, fine, cause⟩ := ih behind
      exact ⟨(name, source) :: before, template, after, rfl,
        List.forall_mem_cons.mpr ⟨accepted, fine⟩, cause⟩

variable {t : Terminal String} {u : Terminal Method}

theorem compile_eq_ok : compile t options = .ok u ↔
    ∃ methods, compileStrings options t.strings.toList = .ok methods ∧
      { t with strings := .ofList methods } = u := by
  cases made : compileStrings options t.strings.toList <;> simp [compile, made, Except.map]

theorem compile_eq_error {e : Error} :
    compile t options = .error e ↔ compileStrings options t.strings.toList = .error e := by
  cases made : compileStrings options t.strings.toList <;> simp [compile, made, Except.map]

theorem mem_strings {capability template : String} :
    template ∈ t.strings[capability]? ↔ (capability, template) ∈ t.strings.toList :=
  Std.TreeMap.mem_toList_iff_getElem?_eq_some.symm

/-- What is given under the name, if anything is, is accepted. -/
def Accepts (t : Terminal String) (capability : String) : Prop :=
  ∀ template ∈ t.strings[capability]?, ∃ ts, Template.tokens template = .ok ts

theorem exists_compile : (∃ u, compile t options = .ok u) ↔ ∀ capability, t.Accepts capability := by
  simp only [compile_eq_ok, Accepts, mem_strings, ← @Method.exists_compile _ options]
  constructor
  · rintro ⟨_, methods, made, _⟩ capability template given
    exact exists_compileStrings.mp ⟨methods, made⟩ _ given
  · intro accepted
    obtain ⟨methods, made⟩ := exists_compileStrings.mpr fun entry given => accepted entry.1 entry.2 given
    exact ⟨_, methods, made, rfl⟩

theorem getElem?_ofList {entries : List (String × Method)} (distinct : (entries.map Prod.fst).Nodup)
    {capability : String} {m : Method} :
    (Std.TreeMap.ofList entries)[capability]? = some m ↔ (capability, m) ∈ entries := by
  have apart : entries.Pairwise fun a b => ¬compare a.1 b.1 = .eq := by
    simpa [List.Nodup, List.pairwise_map] using distinct
  have found {m : Method} (member : (capability, m) ∈ entries) :
      (Std.TreeMap.ofList entries)[capability]? = some m :=
    Std.TreeMap.getElem?_ofList_of_mem (by simp) apart member
  refine ⟨fun looked => ?_, found⟩
  have listed : capability ∈ Std.TreeMap.ofList entries := by
    rw [← Std.TreeMap.isSome_getElem?_iff_mem, looked]
    rfl
  obtain ⟨⟨_, other⟩, member, rfl⟩ : ∃ entry ∈ entries, entry.1 = capability := by
    simpa [Std.TreeMap.mem_ofList] using listed
  have same : some other = some m := (found member).symm.trans looked
  cases same
  exact member

theorem nodup_keys (t : Terminal String) : (t.strings.toList.map Prod.fst).Nodup := by
  rw [Std.TreeMap.map_fst_toList_eq_keys]
  exact Std.TreeMap.nodup_keys

theorem method_eq_some (compiled : compile t options = .ok u) {capability : String} {m : Method} :
    u.method capability = some m ↔
      ∃ template, t.strings[capability]? = some template ∧
        Method.compile template options = .ok m := by
  obtain ⟨methods, made, rfl⟩ := compile_eq_ok.mp compiled
  have distinct : (methods.map Prod.fst).Nodup := keys_compileStrings made ▸ nodup_keys t
  simp only [method, getElem?_ofList distinct, mem_compileStrings made,
    Std.TreeMap.mem_toList_iff_getElem?_eq_some]

theorem exists_method (compiled : compile t options = .ok u) {capability template : String}
    (given : t.strings[capability]? = some template) :
    ∃ m, Method.compile template options = .ok m ∧ u.method capability = some m := by
  obtain ⟨m, made⟩ := Method.exists_compile.mpr
    (exists_compile.mp ⟨u, compiled⟩ capability template given)
  exact ⟨m, made, (method_eq_some compiled).mpr ⟨template, given, made⟩⟩

theorem isSome_method (compiled : compile t options = .ok u) (capability : String) :
    (u.method capability).isSome = t.has capability := by
  rw [has, Std.TreeMap.contains_eq_isSome_getElem?]
  cases given : t.strings[capability]? with
  | some template =>
    obtain ⟨m, _, found⟩ := exists_method compiled given
    rw [found]
    rfl
  | none =>
    cases found : u.method capability with
    | none => rfl
    | some m =>
      obtain ⟨template, there, _⟩ := (method_eq_some compiled).mp found
      rw [given] at there
      cases there

/-- The least capability that is not accepted, with the reason. -/
structure FirstRefused (t : Terminal String) (e : Error) : Prop where
  refused : ∃ template ∈ t.strings[e.capability]?, Template.tokens template = .error e.reason
  least : ∀ capability < e.capability, t.Accepts capability

theorem firstRefused_of_compile {e : Error} (failed : compile t options = .error e) :
    t.FirstRefused e := by
  obtain ⟨before, template, after, listed, accepted, cause⟩ :=
    compileStrings_refused (compile_eq_error.mp failed)
  have ordered := Std.TreeMap.ordered_keys_toList (t := t.strings)
  rw [listed, List.pairwise_append, List.pairwise_cons] at ordered
  constructor
  · refine ⟨template, ?_, Method.compile_eq_error.mp cause⟩
    rw [mem_strings, listed]
    simp
  · intro capability smaller template' given
    rw [mem_strings, listed] at given
    apply (@Method.exists_compile template' options).mp
    rcases List.mem_append.mp given with front | back
    · exact accepted _ front
    · -- The names from the reported one on are not less than it.
      rcases List.mem_cons.mp back with same | behind
      · cases same
        exact absurd smaller (lt_irrefl _)
      · have greater := ordered.2.1.1 _ behind
        exact absurd (compareOfLessAndEq_eq_lt.mp greater) (lt_asymm smaller)

theorem FirstRefused.not_accepts {e : Error} (first : t.FirstRefused e) :
    ¬t.Accepts e.capability := by
  obtain ⟨template, given, cause⟩ := first.refused
  intro accepted
  obtain ⟨ts, read⟩ := accepted template given
  rw [cause] at read
  cases read

theorem FirstRefused.unique {e e' : Error} (first : t.FirstRefused e) (other : t.FirstRefused e') :
    e = e' := by
  obtain ⟨capability, reason⟩ := e
  obtain ⟨capability', reason'⟩ := e'
  have same : capability = capability' := by
    apply String.le_antisymm
    · exact String.not_lt.mp fun smaller => other.not_accepts (first.least _ smaller)
    · exact String.not_lt.mp fun smaller => first.not_accepts (other.least _ smaller)
  subst same
  obtain ⟨template, given, cause⟩ := first.refused
  obtain ⟨template', given', cause'⟩ := other.refused
  obtain rfl : template = template' := Option.mem_unique given given'
  obtain rfl : reason = reason' := Except.error.inj (cause.symm.trans cause')
  rfl

theorem compile_eq_error_iff {e : Error} : compile t options = .error e ↔ t.FirstRefused e := by
  refine ⟨firstRefused_of_compile, fun first => ?_⟩
  cases compiled : compile t options with
  | ok u => exact absurd (exists_compile.mp ⟨u, compiled⟩ _) first.not_accepts
  | error e' => rw [first.unique (firstRefused_of_compile compiled)]

/-- Only the capabilities up to the one that is reported matter. -/
theorem FirstRefused.congr {t' : Terminal String} {e : Error} (first : t.FirstRefused e)
    (same : ∀ capability ≤ e.capability, t'.strings[capability]? = t.strings[capability]?) :
    t'.FirstRefused e where
  refused := by
    rw [same _ (le_refl _)]
    exact first.refused
  least capability smaller := by
    rw [Accepts, same _ (le_of_lt smaller)]
    exact first.least capability smaller

/-- Capabilities are made ready exactly if all their templates are accepted: then all else is as it
was, and each has the method of its own template. Otherwise the least capability whose template is
refused is reported, whatever is given for those behind it. -/
theorem compiled_or_first_refused (t : Terminal String) (options : Options) :
    ((∃ u, t.compile options = .ok u) ↔
      ∀ (capability template : String), t.strings[capability]? = some template →
        ∃ ts, Template.tokens template = .ok ts) ∧
    (∀ u, t.compile options = .ok u →
      u.name = t.name ∧ u.names = t.names ∧ u.description = t.description ∧
      u.flags = t.flags ∧ u.numbers = t.numbers ∧
      (∀ capability, u.has capability = t.has capability) ∧
      (∀ (capability template : String), t.strings[capability]? = some template →
        ∃ m, Method.compile template options = .ok m ∧ u.method capability = some m ∧
          ∀ params, u.call capability params = some (m.callWith .initial params).1) ∧
      (∀ capability params, (u.call capability params).isSome = t.has capability)) ∧
    (∀ e, t.compile options = .error e ↔
      (∃ template, t.strings[e.capability]? = some template ∧
        Template.tokens template = .error e.reason) ∧
      ∀ capability < e.capability, ∀ template, t.strings[capability]? = some template →
        ∃ ts, Template.tokens template = .ok ts) ∧
    (∀ e, t.compile options = .error e → ∀ (t' : Terminal String) (options' : Options),
      (∀ capability ≤ e.capability, t'.strings[capability]? = t.strings[capability]?) →
        t'.compile options' = .error e) := by
  refine ⟨exists_compile, fun u compiled => ?_, fun e => ?_, fun e failed t' options' same => ?_⟩
  · have same (capability) : (u.method capability).isSome = t.has capability :=
      isSome_method compiled capability
    have called (capability template) (given : t.strings[capability]? = some template) :
        ∃ m, Method.compile template options = .ok m ∧ u.method capability = some m ∧
          ∀ params, u.call capability params = some (m.callWith .initial params).1 := by
      obtain ⟨m, made, found⟩ := exists_method compiled given
      exact ⟨m, made, found, fun params => by rw [call, found]; rfl⟩
    obtain ⟨methods, _, rfl⟩ := compile_eq_ok.mp compiled
    refine ⟨rfl, rfl, rfl, rfl, rfl, fun capability => ?_, called, fun capability params => ?_⟩
    · rw [← same, has, Std.TreeMap.contains_eq_isSome_getElem?]
      rfl
    · rw [call, Option.isSome_map, same]
  · rw [compile_eq_error_iff]
    exact ⟨fun first => ⟨first.refused, first.least⟩, fun ⟨refused, least⟩ => ⟨refused, least⟩⟩
  · exact compile_eq_error_iff.mpr ((compile_eq_error_iff.mp failed).congr same)

/-- Of two templates that are refused the first is reported, and a sound one in place of the second
changes nothing. -/
theorem compiled_or_first_refused_bell :
    compile { strings := (Std.TreeMap.ofList [("bel", "%p0"), ("am", "^G")]).insert "cup" "%z" } =
      .error ⟨"bel", ⟨.invalidParameter '0', 0⟩⟩ ∧
    compile { strings := (Std.TreeMap.ofList [("bel", "%p0"), ("am", "^G")]).insert "cup" "%%" } =
      .error ⟨"bel", ⟨.invalidParameter '0', 0⟩⟩ := by
  have failed :
      compile { strings := (Std.TreeMap.ofList [("bel", "%p0"), ("am", "^G")]).insert "cup" "%z" } =
        .error ⟨"bel", ⟨.invalidParameter '0', 0⟩⟩ :=
    compile_eq_error.mpr (by decide +kernel)
  refine ⟨failed, (compiled_or_first_refused _ _).2.2.2 _ failed _ _ fun capability inside => ?_⟩
  have before : capability ≠ "cup" := by
    rintro rfl
    exact absurd inside (by decide)
  simp [Std.TreeMap.getElem?_insert, before.symm]

end TermTemplate.Terminal
