import TermTemplate.Proofs.FieldAgreement

/-! The grammar of format strings. A string is read as plain characters, doubled percent signs and
written fields as far as it starts with one of these, and each field prints the argument of its own
number. A percent sign that starts none of them stands for itself, and what follows it is read as if
it were not there. Every string is one or the other, so nothing is left open. -/
namespace TermTemplate.FormatString

/-- A part of a format string that is taken as a whole. -/
inductive Segment
  | char (c : Char) (plain : c ≠ '%')
  | percent
  | field (w : WrittenField)

namespace Segment

def chars : Segment → List Char
  | char c _ => [c]
  | percent => ['%', '%']
  | field w => '%' :: w.chars

def isField : Segment → Bool
  | field _ => true
  | _ => false

/-- What is printed, if a field gets the given argument or none. -/
def output (arg : Option Value) : Segment → List Char
  | char c _ => [c]
  | percent => ['%']
  | field w => Field.renderChars ⟨w.conversion, w.layout.capped⟩ arg

end Segment

def source (segments : List Segment) : String := String.ofList (segments.flatMap Segment.chars)

def fieldCount (segments : List Segment) : Nat := segments.countP Segment.isField

/-- A field gets the argument whose number is that of the fields before it. -/
def outputChars (segments : List Segment) (args : List Value) : List Char :=
  (segments.mapIdx fun i segment => segment.output args[fieldCount (segments.take i)]?).flatten

def output (segments : List Segment) (args : List Value) : String :=
  String.ofList (outputChars segments args)

/-- What can follow a `%` that starts neither `%%` nor a field. -/
def Stray (r : List Char) : Prop :=
  r.head? ≠ some '%' ∧ ∀ (w : WrittenField) (rest : List Char), r ≠ w.chars ++ rest

theorem readField?_eq_none {r : List Char} :
    readField? r = none ↔ ∀ (w : WrittenField) (rest : List Char), r ≠ w.chars ++ rest := by
  rw [Option.eq_none_iff_forall_ne_some]
  constructor
  · rintro missing w rest rfl
    exact missing _ (readField?_eq_some.mpr ⟨w, rfl, rfl⟩)
  · rintro missing ⟨f, rest⟩ found
    obtain ⟨w, split, _⟩ := readField?_eq_some.mp found
    exact missing w rest split

instance (r : List Char) : Decidable (Stray r) :=
  decidable_of_iff (r.head? ≠ some '%' ∧ readField? r = none) (and_congr_right' readField?_eq_none)

theorem expandChars_plain {c : Char} (plain : c ≠ '%') (cs : List Char) (args : List Value) :
    expandChars (c :: cs) args = c :: expandChars cs args := by
  rw [expandChars.eq_4 _ _ _ (fun _ same _ => plain same) plain]

theorem expandChars_stray {r : List Char} (stray : Stray r) (args : List Value) :
    expandChars ('%' :: r) args = '%' :: expandChars r args := by
  obtain ⟨single, missing⟩ := stray
  have single : ∀ cs, r ≠ '%' :: cs := by
    rintro cs rfl
    exact single rfl
  rw [expandChars.eq_3 _ _ single]
  split
  · rename_i found
    rw [readField?_eq_none.mpr missing] at found
    cases found
  · rfl

theorem fieldCount_cons (segment : Segment) (rest : List Segment) :
    fieldCount (segment :: rest) = segment.isField.toNat + fieldCount rest := by
  cases field : segment.isField <;> simp [fieldCount, field, Nat.add_comm]

theorem expandChars_segment (segment : Segment) (cs : List Char) (args : List Value) :
    expandChars (segment.chars ++ cs) args =
      segment.output args.head? ++ expandChars cs (args.drop segment.isField.toNat) := by
  cases segment with
  | char c plain => exact expandChars_plain plain cs args
  | percent => exact expandChars.eq_2 args cs
  | field w =>
    have found : readField? (w.chars ++ cs) = some (⟨w.conversion, w.layout.capped⟩, cs) :=
      readField?_eq_some.mpr ⟨w, rfl, rfl⟩
    rw [show args.drop (Segment.field w).isField.toNat = args.tail from List.drop_one]
    exact expandChars_field found args

theorem outputChars_cons (segment : Segment) (rest : List Segment) (args : List Value) :
    outputChars (segment :: rest) args =
      segment.output args.head? ++ outputChars rest (args.drop segment.isField.toNat) := by
  have first : fieldCount [] = 0 := rfl
  simp only [outputChars, List.mapIdx_cons, List.flatten_cons, List.take_zero, first,
    List.take_succ_cons, fieldCount_cons, List.getElem?_drop, List.head?_eq_getElem?]

theorem expandChars_segments (segments : List Segment) (cs : List Char) (args : List Value) :
    expandChars (segments.flatMap Segment.chars ++ cs) args =
      outputChars segments args ++ expandChars cs (args.drop (fieldCount segments)) := by
  induction segments generalizing args with
  | nil => rfl
  | cons segment rest ih =>
    rw [List.flatMap_cons, List.append_assoc, expandChars_segment, ih, outputChars_cons,
      List.append_assoc, List.drop_drop, fieldCount_cons]

/-- However a string goes on, what it starts with is settled. -/
theorem starts (cs : List Char) :
    cs = [] ∨ (∃ segment : Segment, ∃ rest, cs = segment.chars ++ rest) ∨
      ∃ r, cs = '%' :: r ∧ Stray r := by
  cases cs with
  | nil => exact .inl rfl
  | cons c cs =>
    by_cases plain : c = '%'
    · subst plain
      by_cases double : cs.head? = some '%'
      · obtain ⟨ds, rfl⟩ := List.head?_eq_some_iff.mp double
        exact .inr (.inl ⟨.percent, ds, rfl⟩)
      · cases found : readField? cs with
        | none => exact .inr (.inr ⟨cs, rfl, double, readField?_eq_none.mp found⟩)
        | some pair =>
          obtain ⟨w, rfl, _⟩ := readField?_eq_some.mp found
          exact .inr (.inl ⟨.field w, pair.2, rfl⟩)
    · exact .inr (.inl ⟨.char c plain, cs, rfl⟩)

theorem Segment.length_chars_pos (segment : Segment) : 0 < segment.chars.length := by
  cases segment <;> simp [chars]

theorem source_append (segments : List Segment) (cs : List Char) :
    source segments ++ String.ofList cs = String.ofList (segments.flatMap Segment.chars ++ cs) := by
  rw [source, String.ofList_append]

theorem percent_append (cs : List Char) :
    "%" ++ String.ofList cs = String.ofList ('%' :: cs) := by
  rw [show "%" = String.ofList ['%'] from rfl, ← String.ofList_append]
  rfl

theorem expand_ofList (cs : List Char) (args : List Value) :
    expand (String.ofList cs) args = String.ofList (expandChars cs args) := by
  rw [expand, String.toList_ofList]

theorem expand_source_append (segments : List Segment) (t : String) (args : List Value) :
    expand (source segments ++ t) args =
      output segments args ++ expand t (args.drop (fieldCount segments)) := by
  obtain ⟨cs, rfl⟩ := String.exists_eq_ofList t
  rw [source_append, expand_ofList, expand_ofList, expandChars_segments, String.ofList_append, output]

theorem expand_stray (r : String) (args : List Value) (stray : Stray r.toList) :
    expand ("%" ++ r) args = "%" ++ expand r args := by
  obtain ⟨cs, rfl⟩ := String.exists_eq_ofList r
  rw [String.toList_ofList] at stray
  rw [percent_append, expand_ofList, expand_ofList, expandChars_stray stray, percent_append]

/-- What holds of format strings with one more segment or stray percent sign in front is all there is
to know about them. -/
theorem eq_expand {g : String → List Value → String} (empty : ∀ args, g "" args = "")
    (segmented : ∀ segments t args, g (source segments ++ t) args =
      output segments args ++ g t (args.drop (fieldCount segments)))
    (strayed : ∀ r args, Stray r.toList → g ("%" ++ r) args = "%" ++ g r args) :
    g = expand := by
  -- By induction on the length: a segment and a stray percent sign both leave a shorter string.
  have same (n : Nat) (cs : List Char) (short : cs.length < n) (args : List Value) :
      g (String.ofList cs) args = expand (String.ofList cs) args := by
    induction n generalizing cs args with
    | zero => omega
    | succ n ih =>
      rcases starts cs with rfl | ⟨segment, rest, rfl⟩ | ⟨r, rfl, stray⟩
      · rw [expand_ofList, expandChars.eq_1]
        exact empty args
      · have front : String.ofList (segment.chars ++ rest) =
            source [segment] ++ String.ofList rest := by
          rw [source_append, List.flatMap_singleton]
        have positive := segment.length_chars_pos
        rw [List.length_append] at short
        rw [front, segmented, expand_source_append, ih rest (by omega)]
      · have marked : Stray (String.ofList r).toList := by rwa [String.toList_ofList]
        rw [List.length_cons] at short
        rw [← percent_append, strayed _ _ marked, expand_stray _ _ marked, ih r (by omega)]
  funext format args
  have whole := same (format.toList.length + 1) format.toList (Nat.lt_succ_self _) args
  rwa [String.ofList_toList] at whole

/-- Segments at the front print one after another, each field the argument of its own number, and what
follows prints as it does without the arguments that they take. A percent sign that starts no segment
stands for itself and takes none. Nothing but `expand` follows this grammar. -/
theorem expand_follows_grammar :
    (∀ (segments : List Segment) (t : String) (args : List Value),
      expand (source segments ++ t) args =
        output segments args ++ expand t (args.drop (fieldCount segments))) ∧
    (∀ (r : String) (args : List Value), Stray r.toList →
      expand ("%" ++ r) args = "%" ++ expand r args) ∧
    (∀ g : String → List Value → String, (∀ args, g "" args = "") →
      (∀ segments t args, g (source segments ++ t) args =
        output segments args ++ g t (args.drop (fieldCount segments))) →
      (∀ r args, Stray r.toList → g ("%" ++ r) args = "%" ++ g r args) → g = expand) :=
  ⟨expand_source_append, expand_stray, fun _ => eq_expand⟩

/-- A flag and a width that come to nothing are read again as text, and the field behind them gets
the argument. -/
theorem expand_follows_grammar_width :
    Stray "-5%d".toList ∧ expand ("%" ++ "-5%d") [.integer 7] = "%-57" := by
  have stray : Stray "-5%d".toList := by decide +kernel
  refine ⟨stray, ?_⟩
  rw [expand_follows_grammar.2.1 _ _ stray]
  decide +kernel

end TermTemplate.FormatString
