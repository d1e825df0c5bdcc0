import TermTemplate.Method
import TermTemplate.Proofs.Delimited
import TermTemplate.Proofs.NumberLayout

/-! A decimal number that was printed counts as the same number when it is read as a text. Sign,
leading blank, zeros and trailing blanks are all passed over in reading, and the least word is read
right because its magnitude wraps to the word itself. Texts are told from numbers only where two of
them are compared for equality. -/
namespace TermTemplate

namespace Text

theorem foldl_digitWord (ds : List Char) (n : Nat) :
    ds.foldl (fun n c => 10 * n + digitWord c) (Int64.ofNat n) =
      Int64.ofNat (Nat.ofDigitChars 10 ds n) := by
  induction ds generalizing n with
  | nil => simp
  | cons c ds ih =>
    have step : 10 * Int64.ofNat n + digitWord c = Int64.ofNat (10 * n + (c.toNat - '0'.toNat)) := by
      rw [digitWord, Int64.ofNat_add, Int64.ofNat_mul]
      rfl
    rw [List.foldl_cons, step, ih, Nat.ofDigitChars_cons]

/-- Wrapping at every digit comes to the same as wrapping the whole number. -/
theorem readWord_eq (cs : List Char) : readWord cs = Int64.ofNat (readNat cs).1 :=
  foldl_digitWord (cs.takeWhile Char.isDigit) 0

theorem leadingInteger_of_isDigit {c : Char} (digit : c.isDigit) (cs : List Char) :
    leadingInteger (c :: cs) = readWord (c :: cs) := by
  have start : (c :: cs).dropWhile isWhiteSpace = c :: cs := by
    simp [isWhiteSpace_of_isDigit digit]
  rw [leadingInteger, start]
  split
  case h_1 minus =>
    cases minus
    exact absurd digit (by decide)
  case h_2 plus =>
    cases plus
    exact absurd digit (by decide)
  case h_3 => rfl

theorem leadingInteger_minus (cs : List Char) : leadingInteger ('-' :: cs) = -readWord cs := rfl

theorem leadingInteger_plus (cs : List Char) : leadingInteger ('+' :: cs) = readWord cs := rfl

theorem leadingInteger_blank (cs : List Char) :
    leadingInteger (' ' :: cs) = leadingInteger cs := rfl

/-- A number with zeros in front of it and blanks behind it. -/
def padded (zeros n blanks : Nat) : List Char :=
  List.replicate zeros '0' ++ (Nat.toDigits 10 n ++ List.replicate blanks ' ')

theorem readWord_padded (zeros n blanks : Nat) : readWord (padded zeros n blanks) = Int64.ofNat n := by
  have digits : ∀ c ∈ List.replicate zeros '0' ++ Nat.toDigits 10 n, c.isDigit := by
    intro c member
    rcases List.mem_append.mp member with zero | digit
    · rw [List.eq_of_mem_replicate zero]
      rfl
    · exact isDigit_toDigits digit
  have stop : ∀ c ∈ (List.replicate blanks ' ').head?, c.isDigit = false := by
    intro c member
    rw [List.eq_of_mem_replicate (List.mem_of_mem_head? member)]
    rfl
  have number : Nat.ofDigitChars 10 (List.replicate zeros '0' ++ Nat.toDigits 10 n) 0 = n := by
    rw [Nat.ofDigitChars_append, Nat.ofDigitChars_replicate_zero, Nat.mul_zero,
      Nat.ofDigitChars_ten_toDigits]
  rw [readWord_eq, padded, ← List.append_assoc, readNat_append digits stop, number]

theorem padded_eq_cons (zeros n blanks : Nat) :
    ∃ c cs, padded zeros n blanks = c :: cs ∧ c.isDigit := by
  obtain ⟨c, cs, written, digit⟩ := toDigits_eq_cons n
  cases zeros with
  | zero => exact ⟨c, cs ++ List.replicate blanks ' ', by simp [padded, written], digit⟩
  | succ zeros => exact ⟨'0', padded zeros n blanks, by simp [padded, List.replicate_succ], rfl⟩

theorem leadingInteger_padded (zeros n blanks : Nat) :
    leadingInteger (padded zeros n blanks) = Int64.ofNat n := by
  obtain ⟨c, cs, written, digit⟩ := padded_eq_cons zeros n blanks
  rw [← readWord_padded zeros n blanks, written, leadingInteger_of_isDigit digit]

end Text

theorem ofNat_natAbs {n : Int64} (positive : ¬n < 0) : Int64.ofNat n.toInt.natAbs = n := by
  have sign : (n.toInt.natAbs : Int) = n.toInt := by
    rw [Int64.lt_iff_toInt_lt, Int64.toInt_zero] at positive
    omega
  rw [← Int64.ofInt_eq_ofNat, sign, Int64.ofInt_toInt]

/-- The magnitude of the least word wraps to that word, which is its own negative. -/
theorem neg_ofNat_natAbs {n : Int64} (negative : n < 0) : -Int64.ofNat n.toInt.natAbs = n := by
  have sign : -(n.toInt.natAbs : Int) = n.toInt := by
    rw [Int64.lt_iff_toInt_lt, Int64.toInt_zero] at negative
    omega
  rw [Int64.neg_ofNat, sign, Int64.ofInt_toInt]

theorem leadingInteger_numeral (l : Layout) (n : Int64) (zeros blanks : Nat) :
    Text.leadingInteger ((Numeral.decimal l n).mark ++ Text.padded zeros n.toInt.natAbs blanks) = n := by
  simp only [Numeral.decimal]
  split
  case isTrue negative =>
    rw [List.singleton_append, Text.leadingInteger_minus, Text.readWord_padded,
      neg_ofNat_natAbs negative]
  case isFalse positive =>
    split
    · rw [List.singleton_append, Text.leadingInteger_plus, Text.readWord_padded,
        ofNat_natAbs positive]
    · split
      · rw [List.singleton_append, Text.leadingInteger_blank, Text.leadingInteger_padded,
          ofNat_natAbs positive]
      · rw [List.nil_append, Text.leadingInteger_padded, ofNat_natAbs positive]

theorem Layout.fillNumeral_decimal (l : Layout) (n : Int64) : ∃ zeros blanks,
    l.fillNumeral (.decimal l n) =
      (Numeral.decimal l n).mark ++ Text.padded zeros n.toInt.natAbs blanks := by
  have filled := l.fillNumeral_eq (Numeral.decimal l n).mark (Nat.toDigits 10 n.toInt.natAbs)
  rw [List.append_assoc, List.append_assoc] at filled
  exact ⟨_, _, filled⟩

theorem Value.toInteger_decimal (v : Value) (l : Layout) :
    (Value.text (Field.render ⟨.decimal, l⟩ (some v))).toInteger = v.toInteger := by
  obtain ⟨zeros, blanks, filled⟩ := l.fillNumeral_decimal v.toInteger
  have printed : (Field.render ⟨.decimal, l⟩ (some v)).toList =
      l.fillNumeral (.decimal l v.toInteger) := String.toList_ofList
  rw [toInteger, printed, filled, leadingInteger_numeral]

theorem BinaryOp.apply_eq_onWords {op : BinaryOp} {x y : Value}
    (number : op = .equal → (∃ n, x = .integer n) ∨ ∃ n, y = .integer n) :
    op.apply x y = .integer (op.onWords x.toInteger y.toInteger) := by
  unfold apply
  split
  · rcases number rfl with ⟨_, same⟩ | ⟨_, same⟩ <;> cases same
  · rfl

theorem Field.render_eq_of_toInteger {f : Field} (number : f.conversion ≠ .string) {x y : Value}
    (same : x.toInteger = y.toInteger) : f.render (some x) = f.render (some y) := by
  obtain ⟨conversion, l⟩ := f
  cases conversion with
  | string => exact absurd rfl number
  | _ => simp only [render, renderChars, Option.map_some, same]

/-- A value that was printed in decimal, in whatever layout, counts as the same integer when the text
is passed on, to every operator and every field that is not for strings. Only where it is compared for
equality with another text are the two compared as texts. -/
theorem printed_integer_counts (v : Value) (l : Layout) :
    let text := Field.render ⟨.decimal, l⟩ (some v)
    let printed := Value.text text
    let n := v.toInteger
    printed.toInteger = n ∧
    ∀ (ps : Parameters) (s : State),
      (∀ index, ps.values[index]? = some printed →
        (Action.parameter index).apply ps s = s.push printed) ∧
      (∀ (op : BinaryOp) (w : Value), (op = .equal → ∃ k, w = .integer k) →
        (Action.binary op).apply ps ((s.push w).push printed) =
          (Action.binary op).apply ps ((s.push w).push (.integer n)) ∧
        (Action.binary op).apply ps ((s.push printed).push w) =
          (Action.binary op).apply ps ((s.push (.integer n)).push w)) ∧
      (∀ other : String,
        (Action.binary .equal).apply ps ((s.push (.text other)).push printed) =
          s.push (.ofBool (other == text)) ∧
        (Action.binary .equal).apply ps ((s.push printed).push (.text other)) =
          s.push (.ofBool (text == other))) ∧
      (∀ op : UnaryOp,
        (Action.unary op).apply ps (s.push printed) =
          (Action.unary op).apply ps (s.push (.integer n))) ∧
      (∀ f : Field, f.conversion ≠ .string →
        (Action.print f).apply ps (s.push printed) =
          (Action.print f).apply ps (s.push (.integer n))) := by
  intro text printed n
  have counts : printed.toInteger = (Value.integer n).toInteger := v.toInteger_decimal l
  refine ⟨counts, fun ps s => ⟨fun index given => ?_, fun op w number => ⟨?_, ?_⟩,
    fun other => ⟨rfl, rfl⟩, fun op => ?_, fun f number => ?_⟩⟩
  · simp only [Action.apply, Parameters.get, given, Option.getD_some]
    rfl
  · have same : op.apply w printed = op.apply w (.integer n) := by
      rw [BinaryOp.apply_eq_onWords fun equal => .inl (number equal),
        BinaryOp.apply_eq_onWords fun equal => .inl (number equal), counts]
    simp only [Action.apply, State.top_push, State.drop_push, same]
  · have same : op.apply printed w = op.apply (.integer n) w := by
      rw [BinaryOp.apply_eq_onWords fun equal => .inr (number equal),
        BinaryOp.apply_eq_onWords fun equal => .inr (number equal), counts]
    simp only [Action.apply, State.top_push, State.drop_push, same]
  · simp only [Action.apply, State.top_push, State.drop_push, UnaryOp.apply, counts]
  · have same := Field.render_eq_of_toInteger number counts
    simp only [Action.apply, State.push, same]
    rfl

/-- The least word, with a zero behind its sign and blanks behind its digits, is still less than the
next one. -/
theorem printed_integer_counts_least :
    let l : Layout := { width := 24, precision := some 20, left := true }
    let printed := Value.text (Field.render ⟨.decimal, l⟩ (some (.integer Int64.minValue)))
    printed.toInteger = Int64.minValue ∧
    ((Action.binary .less).apply ⟨[], false⟩
      ((State.push {} printed).push (.integer (Int64.minValue + 1)))).top = .integer 1 := by
  intro l printed
  obtain ⟨counts, directives⟩ := printed_integer_counts (.integer Int64.minValue) l
  obtain ⟨_, operators, _⟩ := directives ⟨[], false⟩ {}
  refine ⟨counts, ?_⟩
  rw [(operators .less _ fun _ => ⟨_, rfl⟩).2]
  decide

/-- Printed to the width 2, the number 5 is not equal to the text that it is printed as by itself,
although both count as 5. -/
theorem printed_texts_differ :
    let printed := Value.text (Field.render ⟨.decimal, { width := 2 }⟩ (some (.integer 5)))
    printed.toInteger = 5 ∧ (Value.text "5").toInteger = 5 ∧
    ∃ m, Method.compile "%p1%p2%=%d" = .ok m ∧
      m.call [printed, .text "5"] = "0" ∧ m.call [.integer 5, .text "5"] = "1" := by
  intro printed
  have read : Template.tokens "%p1%p2%=%d" =
      .ok [.action (.parameter 0), .action (.parameter 1), .action (.binary .equal),
        .action (.print ⟨.decimal, {}⟩)] := by decide +kernel
  refine ⟨by decide +kernel, by decide +kernel, _, Method.compile_eq_ok.mpr ⟨_, read, rfl⟩, ?_, ?_⟩
  · decide +kernel
  · decide +kernel

end TermTemplate
