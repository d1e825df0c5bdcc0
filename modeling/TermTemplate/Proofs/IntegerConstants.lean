import Mathlib.Algebra.Group.Int.Defs
import TermTemplate.Proofs.FieldAgreement
import TermTemplate.Proofs.StructuredRun

/-! Integer constants, with a sign or none, leading zeros and any number of digits. A constant is
judged by its magnitude, before its sign: every word can be written except the least, whose
magnitude is one too many, and no number beyond the words is accepted. -/
namespace TermTemplate

open Template

/-- A decimal integer as it is written, with at least one digit. -/
structure WrittenInteger where
  negative : Bool
  digits : List Char
  digits_mem : ∀ c ∈ digits, c.isDigit
  digits_ne_nil : digits ≠ []

namespace WrittenInteger

def magnitude (w : WrittenInteger) : Nat := Nat.ofDigitChars 10 w.digits 0

def value (w : WrittenInteger) : Int := if w.negative then -w.magnitude else w.magnitude

def chars (w : WrittenInteger) : List Char := (if w.negative then ['-'] else []) ++ w.digits

def source (w : WrittenInteger) : String := String.ofList ('%' :: '\x7b' :: w.chars ++ ['\x7d'])

/-- A word can hold the value. -/
def Fits (w : WrittenInteger) : Prop := -2 ^ 63 ≤ w.value ∧ w.value ≤ 2 ^ 63 - 1

theorem natAbs_value (w : WrittenInteger) : w.value.natAbs = w.magnitude := by
  unfold value
  split
  · exact Int.natAbs_neg _
  · rfl

theorem readMagnitude_digits (w : WrittenInteger) (sign : Int) (rest : List Char) :
    readMagnitude sign (w.digits ++ '\x7d' :: rest) =
      if greatestInteger < w.magnitude then .error .integerOverflow
      else .ok (Int64.ofInt (sign * w.magnitude), rest) := by
  have brace : ∀ c ∈ ('\x7d' :: rest).head?, c.isDigit = false := by
    rintro c ⟨⟩
    rfl
  simp only [readMagnitude, Text.readNat_append w.digits_mem brace]
  rfl

theorem readInteger_digits (w : WrittenInteger) (rest : List Char) :
    readInteger (w.digits ++ rest) = readMagnitude 1 (w.digits ++ rest) := by
  obtain ⟨negative, digits, inside, nonempty⟩ := w
  cases digits with
  | nil => exact absurd rfl nonempty
  | cons d ds =>
    have digit := inside d List.mem_cons_self
    unfold readInteger
    split
    · rename_i minus
      cases minus
      exact absurd digit (by decide)
    · rfl

theorem readInteger_chars (w : WrittenInteger) (rest : List Char) :
    readInteger (w.chars ++ '\x7d' :: rest) =
      if greatestInteger < w.value.natAbs then .error .integerOverflow
      else .ok (Int64.ofInt w.value, rest) := by
  rw [natAbs_value]
  unfold chars value
  split
  · rw [List.singleton_append, List.cons_append, readInteger, readMagnitude_digits, Int.neg_one_mul]
  · rw [List.nil_append, readInteger_digits, readMagnitude_digits, Int.one_mul]

/-- The magnitudes that are accepted are those of all words but the least. -/
theorem fits_iff (w : WrittenInteger) :
    w.value.natAbs ≤ greatestInteger ↔ w.Fits ∧ w.value ≠ -2 ^ 63 := by
  have bound : greatestInteger = 2 ^ 63 - 1 := rfl
  unfold Fits
  omega

theorem readLexeme_accepted {w : WrittenInteger} (small : w.value.natAbs ≤ greatestInteger)
    (rest : List Char) :
    readLexeme '%' ('\x7b' :: (w.chars ++ '\x7d' :: rest)) =
      .ok (.token (.action (.integer (Int64.ofInt w.value))), rest) := by
  have read := w.readInteger_chars rest
  rw [if_neg (Nat.not_lt.mpr small)] at read
  exact Reader.action_ok read .integer

theorem readLexeme_refused {w : WrittenInteger} (large : greatestInteger < w.value.natAbs)
    (rest : List Char) :
    readLexeme '%' ('\x7b' :: (w.chars ++ '\x7d' :: rest)) = .error .integerOverflow := by
  have read := w.readInteger_chars rest
  rw [if_pos large] at read
  show readInteger.action .integer _ = _
  rw [Reader.action, read]
  rfl

theorem source_eq (w : WrittenInteger) :
    w.source = String.ofList ('%' :: '\x7b' :: (w.chars ++ ['\x7d'])) := rfl

theorem tokens_accepted {w : WrittenInteger} (small : w.value.natAbs ≤ greatestInteger) :
    tokens w.source = .ok [.action (.integer (Int64.ofInt w.value))] := by
  have read : ReadAs ('%' :: '\x7b' :: (w.chars ++ ['\x7d']))
      [.token (.action (.integer (Int64.ofInt w.value)))] := by
    refine .single fun rest => ?_
    rw [List.cons_append, List.append_assoc]
    exact readLexeme_accepted small rest
  rw [source_eq, tokens_of_readAs read]
  rfl

theorem tokens_refused {w : WrittenInteger} (large : greatestInteger < w.value.natAbs) :
    tokens w.source = .error ⟨.integerOverflow, 0⟩ :=
  tokens_of_readLexeme_error (readLexeme_refused large [])

/-- The constant is read as the word that it denotes, and refused as too large if there is none. -/
def ReadAsWritten (w : WrittenInteger) : Prop :=
  (w.Fits → ∃ n : Int64, n.toInt = w.value ∧ tokens w.source = .ok [.action (.integer n)]) ∧
  (¬w.Fits → tokens w.source = .error ⟨.integerOverflow, 0⟩)

theorem readAsWritten_iff (w : WrittenInteger) : w.ReadAsWritten ↔ w.value ≠ -2 ^ 63 := by
  by_cases small : w.value.natAbs ≤ greatestInteger
  · obtain ⟨fits, other⟩ := w.fits_iff.mp small
    have bound : greatestInteger = 2 ^ 63 - 1 := rfl
    have word : (Int64.ofInt w.value).toInt = w.value :=
      Int64.toInt_ofInt_of_le (by omega) (by omega)
    exact ⟨fun _ => other, fun _ =>
      ⟨fun _ => ⟨_, word, tokens_accepted small⟩, fun unfit => absurd fits unfit⟩⟩
  · -- What is refused has no word, or it is the least one, where reading and writing part.
    have refused := tokens_refused (Nat.not_le.mp small)
    constructor
    · intro ⟨accepted, _⟩ least
      have fits : w.Fits := by
        unfold Fits
        omega
      obtain ⟨n, _, read⟩ := accepted fits
      rw [refused] at read
      cases read
    · intro other
      have unfit : ¬w.Fits := fun fits => small (w.fits_iff.mpr ⟨fits, other⟩)
      exact ⟨fun fits => absurd fits unfit, fun _ => refused⟩

def ofInt (n : Int) : WrittenInteger where
  negative := n < 0
  digits := Nat.toDigits 10 n.natAbs
  digits_mem := fun _ => Text.isDigit_toDigits
  digits_ne_nil := by
    obtain ⟨c, cs, written, _⟩ := Text.toDigits_eq_cons n.natAbs
    simp [written]

theorem chars_ofInt (n : Int) : (ofInt n).chars = Text.decimal n := by
  unfold chars ofInt Text.decimal
  split <;> simp_all

theorem value_ofInt (n : Int) : (ofInt n).value = n := by
  have magnitude : (ofInt n).magnitude = n.natAbs := Nat.ofDigitChars_ten_toDigits
  unfold value
  rw [magnitude]
  simp only [ofInt, decide_eq_true_eq]
  split <;> omega

end WrittenInteger

theorem Text.toString_eq_decimal (n : Int) : toString n = String.ofList (decimal n) := by
  cases n with
  | ofNat n =>
    have plain : ¬Int.ofNat n < 0 := by simp
    rw [decimal, if_neg plain]
    exact Nat.toString_eq_ofList_toDigits
  | negSucc n =>
    rw [decimal, if_pos (Int.negSucc_lt_zero n)]
    have written : toString (Int.negSucc n) = "-" ++ toString (n + 1) := rfl
    rw [written, Nat.toString_eq_ofList_toDigits, ← String.toList_inj]
    simp

theorem Field.render_decimal (v : Value) :
    Field.render ⟨.decimal, {}⟩ (some v) = toString v.toInteger.toInt := by
  have filled (n : Int64) : Layout.fillNumeral {} (.decimal {} n) =
      (Numeral.decimal {} n).mark ++ Nat.toDigits 10 n.toInt.natAbs := by
    simp [Layout.fillNumeral, Numeral.decimal, Layout.toPrecision, List.leftpad]
  have sign : v.toInteger < 0 ↔ v.toInteger.toInt < 0 := by
    rw [Int64.lt_iff_toInt_lt, Int64.toInt_zero]
  have printed : Field.render ⟨.decimal, {}⟩ (some v) =
      String.ofList (Layout.fillNumeral {} (.decimal {} v.toInteger)) := rfl
  rw [Text.toString_eq_decimal, printed, filled, Text.decimal]
  by_cases negative : v.toInteger.toInt < 0
  · simp [Numeral.decimal, sign, negative]
  · simp [Numeral.decimal, sign, negative]

/-- An expression that is printed in decimal, by `%d` alone, prints the integer that its value
counts as and leaves the static variables as they are. -/
theorem Expr.compile_decimal {e : Expr} (writable : e.Writable) (options : Options) :
    ∃ m, Method.compile (String.ofList (e.source ++ ['%', 'd'])) options = .ok m ∧
      ∀ (params : List Value) (statics : Variables),
        m.callWith statics params =
          (toString (e.eval ⟨params, false⟩ { statics }).toInteger.toInt, statics) := by
  have field : ReadAs ['%', 'd'] [.token (.action (.print ⟨.decimal, {}⟩))] := .single fun _ => rfl
  have read : ReadAs (e.source ++ ['%', 'd'])
      ((Stmt.print ⟨.decimal, {}⟩ e).tokens.flatMap Token.pieces) := by
    rw [Stmt.tokens, List.flatMap_append]
    exact (Expr.readAs_source writable).append field
  obtain ⟨m, compiled, runs⟩ := Stmt.compile_of_readAs read options
  refine ⟨m, compiled, fun params statics => ?_⟩
  rw [Method.callWith, runs, Stmt.exec, Field.render_decimal]
  simp [State.write]

def printedConstant (n : Int64) : String := "%\x7b" ++ toString n.toInt ++ "\x7d%d"

theorem printedConstant_eq (n : Int64) :
    printedConstant n = String.ofList
      ('%' :: '\x7b' :: ((WrittenInteger.ofInt n.toInt).chars ++ '\x7d' :: ['%', 'd'])) := by
  rw [printedConstant, Text.toString_eq_decimal, WrittenInteger.chars_ofInt, ← String.toList_inj]
  simp

theorem natAbs_le_greatestInteger {n : Int64} :
    n.toInt.natAbs ≤ greatestInteger ↔ n ≠ Int64.minValue := by
  have bound : greatestInteger = 2 ^ 63 - 1 := rfl
  have low := n.le_toInt
  have high := n.toInt_lt
  have least : Int64.minValue.toInt = -2 ^ 63 := rfl
  rw [ne_eq, ← Int64.toInt_inj, least]
  omega

theorem compile_printedConstant (n : Int64) (options : Options) :
    (∃ m, Method.compile (printedConstant n) options = .ok m ∧
      ∀ params, m.call params = toString n.toInt) ↔ n ≠ Int64.minValue := by
  constructor
  · rintro ⟨m, compiled, _⟩ rfl
    have large : greatestInteger < (WrittenInteger.ofInt Int64.minValue.toInt).value.natAbs := by
      rw [WrittenInteger.value_ofInt]
      decide
    have refused := tokens_of_readLexeme_error (WrittenInteger.readLexeme_refused large ['%', 'd'])
    rw [← printedConstant_eq, ← Method.compile_eq_error, compiled] at refused
    cases refused
  · intro other
    obtain ⟨m, compiled, calls⟩ :=
      Expr.compile_decimal (e := .integer n) (natAbs_le_greatestInteger.mpr other) options
    have written : String.ofList ((Expr.integer n).source ++ ['%', 'd']) = printedConstant n := by
      rw [printedConstant_eq, WrittenInteger.chars_ofInt]
      simp [Expr.source, Token.source, Action.source]
    rw [written] at compiled
    exact ⟨m, compiled, fun params => congrArg Prod.fst (calls params .initial)⟩

/-- A constant is read as the word that it denotes, or refused as too large where there is none,
with one exception: the least word is refused too, however it is written. So every other word is
printed from a constant as it is usually written, and that word alone cannot be. -/
theorem integer_constants_read (options : Options) :
    (∀ w : WrittenInteger, w.ReadAsWritten ↔ w.value ≠ -2 ^ 63) ∧
    (∀ w : WrittenInteger, w.value = -2 ^ 63 → tokens w.source = .error ⟨.integerOverflow, 0⟩) ∧
    (∀ n : Int64,
      (∃ m, Method.compile (printedConstant n) options = .ok m ∧
        ∀ params, m.call params = toString n.toInt) ↔ n ≠ Int64.minValue) := by
  refine ⟨WrittenInteger.readAsWritten_iff, fun w least => ?_,
    fun n => compile_printedConstant n options⟩
  apply WrittenInteger.tokens_refused
  rw [least]
  decide

/-- The least word is a word, but refused as too large. -/
theorem least_constant_refused :
    Int64.minValue.toInt = -9223372036854775808 ∧
    tokens "%{-9223372036854775808}" = .error ⟨.integerOverflow, 0⟩ := by
  decide +kernel

end TermTemplate
