import TermTemplate.Field.Bounded
import TermTemplate.Proofs.ViableReaders

/-! Keeping to the limit digit by digit makes no difference: a field read in a single pass, or with
numbers that saturate, is the field whose numbers are judged when they are complete. -/
namespace TermTemplate

theorem Conversion.letter_of_ofChar? {c : Char} {conversion : Conversion}
    (found : ofChar? c = some conversion) : conversion.letter = c := by
  unfold ofChar? at found
  split at found <;> cases found <;> rfl

theorem Layout.ends_of_ofChar? {c : Char} {conversion : Conversion}
    (found : Conversion.ofChar? c = some conversion) : Ends c :=
  Conversion.letter_of_ofChar? found ▸ ends_letter conversion

namespace Template

/-- What is left to do for a field when its layout has been read. -/
def finishField (found : Layout × List Char) : Except Cause (Field × List Char) :=
  Reader.closing (fun _ => found) judgeLayout closeField []

theorem readField_eq_finishField (cs : List Char) : readField cs = finishField (Layout.read cs) := by
  rw [readField_eq_closing]
  rfl

theorem finishField_nil {l : Layout} (normal : judgeLayout l = .ok ()) :
    finishField (l, []) = .error .unexpectedEnd := by
  simp [finishField, Reader.closing, normal]

theorem finishField_cons {l : Layout} (normal : judgeLayout l = .ok ()) (c : Char) (rest : List Char) :
    finishField (l, c :: rest) =
      (Conversion.ofChar? c).elim (.error (.unrecognizedOption c)) fun conversion =>
        .ok (⟨conversion, l⟩, rest) := by
  cases found : Conversion.ofChar? c <;>
    simp [finishField, Reader.closing, normal, closeField, found, Except.map]

theorem finishField_of_error {found : Layout × List Char} {cause : Cause}
    (judged : judgeLayout found.1 = .error cause) : finishField found = .error cause := by
  simp [finishField, Reader.closing, judged]

theorem judgeLayout_ok {l : Layout} (width : l.width ≤ Layout.limit)
    (precision : l.precision.getD 0 ≤ Layout.limit) : judgeLayout l = .ok () := by
  simp [judgeLayout, Nat.not_lt.mpr width, Nat.not_lt.mpr precision]

theorem judgeLayout_wide {l : Layout} (wide : Layout.limit < l.width) :
    judgeLayout l = .error .widthOverflow := by
  simp [judgeLayout, wide]

theorem judgeLayout_long {l : Layout} (width : l.width ≤ Layout.limit)
    (long : Layout.limit < l.precision.getD 0) : judgeLayout l = .error .precisionOverflow := by
  simp [judgeLayout, Nat.not_lt.mpr width, long]

theorem ofChar?_of_isDigit {c : Char} (digit : c.isDigit) : Conversion.ofChar? c = none := by
  cases found : Conversion.ofChar? c with
  | none => rfl
  | some conversion => simp [(Layout.ends_of_ofChar? found).digit] at digit

theorem scanField_step {stage next : Stage} {l m : Layout} {c : Char}
    (letter : Conversion.ofChar? c = none) (step : stage.step l c = .ok (next, m))
    (cs : List Char) : scanField stage l (c :: cs) = scanField next m cs := by
  simp only [scanField, letter, step]

theorem scanField_error {stage : Stage} {l : Layout} {c : Char} {cause : Cause}
    (letter : Conversion.ofChar? c = none) (step : stage.step l c = .error cause) (cs : List Char) :
    scanField stage l (c :: cs) = .error cause := by
  simp only [scanField, letter, step]

/-- A character that does not go on with a layout within its limits ends the field, well or not. -/
theorem scanField_stop {stage : Stage} {l : Layout} {c : Char} (normal : judgeLayout l = .ok ())
    (stop : stage.step l c = .error (.unrecognizedOption c)) (cs : List Char) :
    scanField stage l (c :: cs) = finishField (l, c :: cs) := by
  rw [finishField_cons normal]
  cases found : Conversion.ofChar? c with
  | none => exact scanField_error found stop cs
  | some conversion => simp only [scanField, found, Option.elim_some]

/-- The digits of a precision, from the number `n` on that those before them denote. -/
def morePrecision (l : Layout) (n : Nat) (cs : List Char) : Layout × List Char :=
  ({ l with precision := some (Nat.ofDigitChars 10 (cs.takeWhile Char.isDigit) n) },
    cs.dropWhile Char.isDigit)

/-- The digits of a width, likewise, and what follows them in a layout. -/
def moreWidth (l : Layout) (n : Nat) (cs : List Char) : Layout × List Char :=
  (Layout.readPrecision (cs.dropWhile Char.isDigit)).map (fun precision =>
    { l with width := Nat.ofDigitChars 10 (cs.takeWhile Char.isDigit) n, precision }) id

theorem scanField_precision {l : Layout} {n : Nat} (width : l.width ≤ Layout.limit)
    (bound : n ≤ Layout.limit) (cs : List Char) :
    scanField .precision { l with precision := some n } cs = finishField (morePrecision l n cs) := by
  have normal {n : Nat} (bound : n ≤ Layout.limit) :
      judgeLayout { l with precision := some n } = .ok () := judgeLayout_ok width bound
  induction cs generalizing n with
  | nil => exact (finishField_nil (normal bound)).symm
  | cons c cs ih =>
    by_cases digit : c.isDigit
    · have more : morePrecision l n (c :: cs) =
          morePrecision l (10 * n + (c.toNat - '0'.toNat)) cs := by
        simp only [morePrecision, List.takeWhile_cons, List.dropWhile_cons, digit, if_true,
          Nat.ofDigitChars_cons]
      rw [more]
      by_cases fits : 10 * n + (c.toNat - '0'.toNat) ≤ Layout.limit
      · rw [← ih fits]
        apply scanField_step (ofChar?_of_isDigit digit)
        simp only [Stage.step, digit, if_true, pushDigit?, Option.getD_some, if_pos fits]
      · -- More digits only make the number greater, so the whole number is refused as well.
        have great : Layout.limit < Nat.ofDigitChars 10 (cs.takeWhile Char.isDigit)
            (10 * n + (c.toNat - '0'.toNat)) :=
          Nat.lt_of_lt_of_le (Nat.not_le.mp fits) (Text.le_ofDigitChars _ _)
        have judged : judgeLayout (morePrecision l (10 * n + (c.toNat - '0'.toNat)) cs).1 =
            .error .precisionOverflow := judgeLayout_long width great
        rw [finishField_of_error judged]
        apply scanField_error (ofChar?_of_isDigit digit)
        simp only [Stage.step, digit, if_true, pushDigit?, Option.getD_some, if_neg fits]
    · have none : morePrecision l n (c :: cs) = ({ l with precision := some n }, c :: cs) := by
        simp [morePrecision, digit]
      rw [none]
      exact scanField_stop (normal bound) (by simp [Stage.step, digit]) cs

theorem scanField_width {l : Layout} {n : Nat} (missing : l.precision = none)
    (bound : n ≤ Layout.limit) (cs : List Char) :
    scanField .width { l with width := n } cs = finishField (moreWidth l n cs) := by
  have normal {n : Nat} (bound : n ≤ Layout.limit) : judgeLayout { l with width := n } = .ok () :=
    judgeLayout_ok bound (by simp [missing])
  induction cs generalizing n with
  | nil =>
    have none : moreWidth l n [] = ({ l with width := n }, []) := by
      simp [moreWidth, Layout.readPrecision, missing]
    rw [none]
    exact (finishField_nil (normal bound)).symm
  | cons c cs ih =>
    by_cases digit : c.isDigit
    · have more : moreWidth l n (c :: cs) = moreWidth l (10 * n + (c.toNat - '0'.toNat)) cs := by
        simp only [moreWidth, List.takeWhile_cons, List.dropWhile_cons, digit, if_true,
          Nat.ofDigitChars_cons]
      rw [more]
      by_cases fits : 10 * n + (c.toNat - '0'.toNat) ≤ Layout.limit
      · rw [← ih fits]
        apply scanField_step (ofChar?_of_isDigit digit)
        simp only [Stage.step, digit, if_true, pushDigit?, if_pos fits]
      · have great : Layout.limit < Nat.ofDigitChars 10 (cs.takeWhile Char.isDigit)
            (10 * n + (c.toNat - '0'.toNat)) :=
          Nat.lt_of_lt_of_le (Nat.not_le.mp fits) (Text.le_ofDigitChars _ _)
        have judged : judgeLayout (moreWidth l (10 * n + (c.toNat - '0'.toNat)) cs).1 =
            .error .widthOverflow := judgeLayout_wide great
        rw [finishField_of_error judged]
        apply scanField_error (ofChar?_of_isDigit digit)
        simp only [Stage.step, digit, if_true, pushDigit?, if_neg fits]
    · by_cases point : c = '.'
      · subst point
        exact (scanField_step rfl rfl cs).trans
          (scanField_precision (l := { l with width := n }) bound (Nat.zero_le _) cs)
      · have none : moreWidth l n (c :: cs) = ({ l with width := n }, c :: cs) := by
          have left : Layout.readPrecision (c :: cs) = (none, c :: cs) :=
            Layout.readPrecision_of_head? (by simpa using point)
          simp [moreWidth, digit, left, missing]
        rw [none]
        exact scanField_stop (normal bound) (by simp [Stage.step, digit, point]) cs

theorem addFlag?_numbers {l m : Layout} {c : Char} (flag : l.addFlag? c = some m) :
    m.width = l.width ∧ m.precision = l.precision := by
  unfold Layout.addFlag? at flag
  split at flag <;> cases flag <;> exact ⟨rfl, rfl⟩

theorem digit_le_limit {c : Char} (digit : c.isDigit) : c.toNat - '0'.toNat ≤ Layout.limit := by
  have bounds := Text.bounds_of_isDigit digit
  have limit : Layout.limit = 65535 := rfl
  omega

/-- A field that is read in one pass is read as its parts are. -/
theorem scanField_flags {l : Layout} (width : l.width = 0) (missing : l.precision = none)
    (cs : List Char) :
    scanField .flags l cs = finishField (moreWidth (l.readFlags cs).1 0 (l.readFlags cs).2) := by
  induction cs generalizing l with
  | nil => exact scanField_width missing (Nat.zero_le _) []
  | cons c cs ih =>
    cases flag : l.addFlag? c with
    | some m =>
      have letter : Conversion.ofChar? c = none := by
        cases found : Conversion.ofChar? c with
        | none => rfl
        | some conversion => simp [(Layout.ends_of_ofChar? found).flag] at flag
      obtain ⟨sameWidth, samePrecision⟩ := addFlag?_numbers flag
      have read : l.readFlags (c :: cs) = m.readFlags cs := by simp only [Layout.readFlags, flag]
      rw [read, ← ih (sameWidth.trans width) (samePrecision.trans missing)]
      exact scanField_step letter (by simp only [Stage.step, flag]) cs
    | none =>
      have read : l.readFlags (c :: cs) = (l, c :: cs) := by simp only [Layout.readFlags, flag]
      have zero : { l with width := 0 } = l := by rw [← width]
      -- The first character behind the flags goes on with the width 0.
      have step : Stage.flags.step l c = Stage.width.step l c := by
        by_cases digit : c.isDigit
        · simp only [Stage.step, flag, digit, if_true, pushDigit?, width, Nat.mul_zero, Nat.zero_add,
            if_pos (digit_le_limit digit)]
        · simp only [Stage.step, flag, digit]
          rfl
      rw [read, ← scanField_width missing (Nat.zero_le _) (c :: cs), zero]
      simp only [scanField, step]

theorem scanField_eq_readField (cs : List Char) : scanField .flags {} cs = readField cs := by
  rw [readField_eq_finishField]
  exact scanField_flags rfl rfl cs

end Template

namespace FormatString

/-- Staying at the limit digit by digit ends where the whole number would be cut to it. -/
theorem foldl_pushSaturating (ds : List Char) (n : Nat) :
    ds.foldl pushSaturating (min n Layout.limit) = min (Nat.ofDigitChars 10 ds n) Layout.limit := by
  induction ds generalizing n with
  | nil => simp
  | cons c ds ih =>
    have step : pushSaturating (min n Layout.limit) c =
        min (10 * n + (c.toNat - '0'.toNat)) Layout.limit := by
      simp only [pushSaturating]
      omega
    rw [List.foldl_cons, step, ih, Nat.ofDigitChars_cons]

theorem readSaturating_eq (cs : List Char) :
    readSaturating cs = (Text.readNat cs).map (min · Layout.limit) id := by
  have folded := foldl_pushSaturating (cs.takeWhile Char.isDigit) 0
  rw [Nat.zero_min] at folded
  simp only [readSaturating, folded]
  rfl

theorem readSaturatingPrecision_eq (cs : List Char) :
    readSaturatingPrecision cs =
      (Layout.readPrecision cs).map (Option.map (min · Layout.limit)) id := by
  by_cases point : cs.head? = some '.'
  · obtain ⟨ds, rfl⟩ := List.head?_eq_some_iff.mp point
    simp only [readSaturatingPrecision, Layout.readPrecision, readSaturating_eq, Prod.map_map]
    rfl
  · rw [Layout.readPrecision_of_head? point]
    unfold readSaturatingPrecision
    split
    · exact absurd rfl point
    · rfl

theorem readSaturatingField?_eq (cs : List Char) : readSaturatingField? cs = readField? cs := by
  simp only [readSaturatingField?, readField?, Layout.read, readSaturating_eq,
    readSaturatingPrecision_eq, Prod.map_fst, Prod.map_snd, id]
  cases (Layout.readPrecision (Text.readNat (Layout.readFlags {} cs).2).2).2 with
  | nil => rfl
  | cons c rest => rfl

end FormatString

end TermTemplate
