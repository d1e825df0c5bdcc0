import Mathlib.Data.Nat.Digits.Lemmas
import TermTemplate.Field.Render

/-! The layout of numbers. Every number is printed as a mark, zeros, its digits and blanks. The mark
shows the sign or the base, and the digits are those of the number without leading zeros. Zeros make
up for precision and width, or blanks for width where a field is filled on the right. -/
namespace TermTemplate

namespace Conversion

def isNumeric : Conversion → Bool
  | string | char => false
  | _ => true

def base : Conversion → Nat
  | decimal => 10
  | octal => 8
  | _ => 16

def letters : Conversion → List Char
  | upperHex => "0123456789ABCDEF".toList
  | _ => "0123456789abcdef".toList

/-- The number whose digits are printed. Only a decimal number has a sign. -/
def magnitude (n : Int64) : Conversion → Nat
  | decimal => n.toInt.natAbs
  | _ => (n.toInt % 2 ^ 64).toNat

/-- The values of the digits, from the most significant one on. Zero has one digit. -/
def places (base n : Nat) : List Nat := if n = 0 then [0] else (Nat.digits base n).reverse

def digits (conversion : Conversion) (n : Int64) : List Char :=
  (places conversion.base (conversion.magnitude n)).map (conversion.letters.getD · ' ')

def mark (l : Layout) (n : Int64) : Conversion → List Char
  | decimal => if n < 0 then ['-'] else if l.sign then ['+'] else if l.space then [' '] else []
  | octal =>
    if l.alternate ∧ n ≠ 0 ∧ l.precision.getD 0 ≤ (octal.digits n).length then ['0'] else []
  | lowerHex => if l.alternate ∧ n ≠ 0 then ['0', 'x'] else []
  | upperHex => if l.alternate ∧ n ≠ 0 then ['0', 'X'] else []
  | _ => []

theorem places_lt {base n : Nat} (least : 1 < base) : ∀ d ∈ places base n, d < base := by
  intro d member
  unfold places at member
  split at member
  · rw [List.mem_singleton.mp member]
    omega
  · exact Nat.digits_lt_base least (List.mem_reverse.mp member)

theorem toDigits_eq_places {base : Nat} (least : 1 < base) (n : Nat) :
    Nat.toDigits base n = (places base n).map Nat.digitChar := by
  induction n using Nat.strongRecOn with
  | ind n ih =>
    rw [Nat.toDigits_eq_if least]
    split
    case isTrue single =>
      by_cases zero : n = 0
      · simp [places, zero]
      · simp [places, zero, Nat.digits_of_lt base n zero single]
    case isFalse more =>
      have front : n / base ≠ 0 := by
        have := Nat.div_pos (Nat.le_of_not_lt more) (by omega)
        omega
      have positive : n ≠ 0 := by omega
      rw [ih (n / base) (Nat.div_lt_self (by omega) least)]
      simp [places, front, positive, Nat.digits_def' least (Nat.pos_of_ne_zero positive)]

theorem head?_toDigits {base n : Nat} (least : 1 < base) (greatest : base ≤ 16) :
    (Nat.toDigits base n).head? = some '0' ↔ n = 0 := by
  have letter : ∀ d : Fin 16, Nat.digitChar d = '0' → d = 0 := by decide
  rw [toDigits_eq_places least]
  by_cases zero : n = 0
  · simp [places, zero]
  · have present : Nat.digits base n ≠ [] := Nat.digits_ne_nil_iff_ne_zero.mpr zero
    have last := Nat.getLast_digit_ne_zero base zero
    have small := Nat.digits_lt_base least (List.getLast_mem present)
    simp only [places, zero, if_false, List.head?_map, List.head?_reverse,
      List.getLast?_eq_some_getLast present, Option.map_some, Option.some.injEq, iff_false]
    intro first
    exact last (congrArg Fin.val (letter ⟨_, by omega⟩ first))

theorem toNat_toUInt64 (n : Int64) : n.toUInt64.toNat = (n.toInt % 2 ^ 64).toNat := by
  show n.toBitVec.toNat = (n.toBitVec.toInt % 2 ^ 64).toNat
  have bound := n.toBitVec.isLt
  rw [BitVec.toInt_eq_toNat_cond]
  split <;> omega

theorem toNat_toUInt64_eq_zero {n : Int64} : n.toUInt64.toNat = 0 ↔ n = 0 := by
  rw [← Int64.toBitVec_inj, ← BitVec.toNat_inj]
  rfl

theorem digits_eq_map {conversion : Conversion} {f : Char → Char}
    (letter : ∀ d : Fin 16, conversion.letters.getD d ' ' = f (Nat.digitChar d)) (n : Int64) :
    conversion.digits n = (Nat.toDigits conversion.base (conversion.magnitude n)).map f := by
  have least : 1 < conversion.base := by cases conversion <;> decide
  have greatest : conversion.base ≤ 16 := by cases conversion <;> decide
  rw [digits, toDigits_eq_places least, List.map_map]
  refine List.map_congr_left fun d member => ?_
  have small := places_lt least d member
  exact letter ⟨d, by omega⟩

theorem digits_eq_toDigits {conversion : Conversion} (lower : conversion ≠ upperHex) (n : Int64) :
    conversion.digits n = Nat.toDigits conversion.base (conversion.magnitude n) := by
  have letter : ∀ d : Fin 16, conversion.letters.getD d ' ' = id (Nat.digitChar d) := by
    cases conversion with
    | upperHex => exact absurd rfl lower
    | _ => decide
  rw [digits_eq_map letter, List.map_id]

theorem digits_upperHex (n : Int64) :
    upperHex.digits n = (Nat.toDigits 16 (upperHex.magnitude n)).map Char.toUpper :=
  digits_eq_map (by decide) n

/-- A number with its mark, apart from any width. -/
def numeral (conversion : Conversion) (l : Layout) (n : Int64) : Numeral :=
  ⟨conversion.mark l n, l.toPrecision (conversion.digits n)⟩

theorem decimal_numeral (l : Layout) (n : Int64) : Numeral.decimal l n = decimal.numeral l n := by
  simp [Numeral.decimal, numeral, mark, digits_eq_toDigits, base, magnitude]

theorem head?_toPrecision (l : Layout) (digits : List Char) :
    (l.toPrecision digits).head? = some '0' ↔
      digits.length < l.precision.getD 0 ∨ digits.head? = some '0' := by
  rw [Layout.toPrecision, List.leftpad]
  rcases Nat.lt_or_ge digits.length (l.precision.getD 0) with short | long
  · have some : l.precision.getD 0 - digits.length ≠ 0 := by omega
    simp [List.head?_append, List.head?_replicate, some, short]
  · have none : l.precision.getD 0 - digits.length = 0 := by omega
    simp [none, Nat.not_lt.mpr long]

theorem octal_numeral (l : Layout) (n : Int64) : Numeral.octal l n = octal.numeral l n := by
  have digits : octal.digits n = Nat.toDigits 8 n.toUInt64.toNat := by
    rw [digits_eq_toDigits (by decide), toNat_toUInt64]
    rfl
  have zero : (Nat.toDigits 8 n.toUInt64.toNat).head? = some '0' ↔ n = 0 :=
    (head?_toDigits (by decide) (by decide)).trans toNat_toUInt64_eq_zero
  have marked : (l.toPrecision (octal.digits n)).head? ≠ some '0' ↔
      n ≠ 0 ∧ l.precision.getD 0 ≤ (octal.digits n).length := by
    rw [Ne, head?_toPrecision, digits, zero, not_or, Nat.not_lt, and_comm]
  simp only [Numeral.octal, numeral, mark, ← digits, ← marked, Bool.and_eq_true, bne_iff_ne]

theorem hex_numeral (l : Layout) (n : Int64) : Numeral.hex l n = lowerHex.numeral l n := by
  simp [Numeral.hex, numeral, mark, digits_eq_toDigits, base, magnitude, toNat_toUInt64]

theorem toUpper_numeral (l : Layout) (n : Int64) :
    (Numeral.hex l n).toUpper = upperHex.numeral l n := by
  have digits : (l.toPrecision (Nat.toDigits 16 n.toUInt64.toNat)).map Char.toUpper =
      l.toPrecision (upperHex.digits n) := by
    rw [digits_upperHex, toNat_toUInt64]
    simp [Layout.toPrecision, List.leftpad, magnitude]
  by_cases shown : l.alternate ∧ n ≠ 0 <;>
    simp [Numeral.toUpper, Numeral.hex, numeral, mark, digits, shown]

theorem renderChars_numeral {conversion : Conversion} (numeric : conversion.isNumeric) (l : Layout)
    (v : Option Value) :
    Field.renderChars ⟨conversion, l⟩ v =
      l.fillNumeral (conversion.numeral l ((v.map Value.toInteger).getD 0)) := by
  cases conversion with
  | decimal => simp only [Field.renderChars, decimal_numeral]
  | octal => simp only [Field.renderChars, octal_numeral]
  | lowerHex => simp only [Field.renderChars, hex_numeral]
  | upperHex => simp only [Field.renderChars, toUpper_numeral]
  | string => cases numeric
  | char => cases numeric

end Conversion

namespace Layout

/-- The number of zeros in front of the digits, for a mark and digits of the given lengths. -/
def zeros (l : Layout) (mark digits : Nat) : Nat :=
  if l.left then l.precision.getD 0 - digits
  else max (l.precision.getD 0) (l.width - mark) - digits

def blanks (l : Layout) (mark digits : Nat) : Nat :=
  if l.left then l.width - (mark + max (l.precision.getD 0) digits) else 0

theorem fillNumeral_eq (l : Layout) (mark digits : List Char) :
    l.fillNumeral ⟨mark, l.toPrecision digits⟩ =
      mark ++ List.replicate (l.zeros mark.length digits.length) '0' ++ digits ++
        List.replicate (l.blanks mark.length digits.length) ' ' := by
  have written : l.toPrecision digits =
      List.replicate (l.precision.getD 0 - digits.length) '0' ++ digits := rfl
  have size : (l.toPrecision digits).length = max (l.precision.getD 0) digits.length :=
    List.length_leftpad ..
  cases left : l.left with
  | true =>
    have front : l.zeros mark.length digits.length = l.precision.getD 0 - digits.length := if_pos left
    have behind : l.blanks mark.length digits.length =
        l.width - (mark ++ l.toPrecision digits).length := by
      rw [blanks, if_pos left, List.length_append, size]
    rw [fillNumeral, if_pos left, List.rightpad, behind, front, written]
    simp only [List.append_assoc]
  | false =>
    have right : ¬l.left = true := by simp [left]
    have front : l.zeros mark.length digits.length =
        l.width - mark.length - (l.toPrecision digits).length +
          (l.precision.getD 0 - digits.length) := by
      rw [zeros, if_neg right, size]
      omega
    have behind : l.blanks mark.length digits.length = 0 := if_neg right
    rw [fillNumeral, if_neg right, List.leftpad, behind, front, ← List.replicate_append_replicate,
      written]
    simp only [List.append_assoc, List.replicate_zero, List.append_nil]

theorem zeros_add_blanks (l : Layout) (mark digits : Nat) :
    mark + l.zeros mark digits + digits + l.blanks mark digits =
      max l.width (mark + max (l.precision.getD 0) digits) := by
  unfold zeros blanks
  split <;> omega

end Layout

/-- Every number is laid out as its mark, zeros, its digits and blanks, over the whole width and no
more than it, mark, precision and digits ask for. A field that is filled on the right has the zeros
that precision asks for, and any other has no blanks. -/
theorem Field.render_number {conversion : Conversion} (numeric : conversion.isNumeric) (l : Layout)
    (v : Option Value) :
    let n := (v.map Value.toInteger).getD 0
    let mark := conversion.mark l n
    let digits := conversion.digits n
    ∃ zeros blanks,
      (Field.render ⟨conversion, l⟩ v).toList =
        mark ++ List.replicate zeros '0' ++ digits ++ List.replicate blanks ' ' ∧
      (Field.render ⟨conversion, l⟩ v).length =
        max l.width (mark.length + max (l.precision.getD 0) digits.length) ∧
      (l.left = true → zeros = l.precision.getD 0 - digits.length) ∧
      (l.left = false → blanks = 0) := by
  intro n mark digits
  have printed : (Field.render ⟨conversion, l⟩ v).toList =
      mark ++ List.replicate (l.zeros mark.length digits.length) '0' ++ digits ++
        List.replicate (l.blanks mark.length digits.length) ' ' := by
    rw [Field.render, String.toList_ofList, Conversion.renderChars_numeral numeric]
    exact l.fillNumeral_eq mark digits
  refine ⟨_, _, printed, ?_, ?_, ?_⟩
  · rw [← String.length_toList, printed, ← l.zeros_add_blanks]
    simp only [List.length_append, List.length_replicate]
  · intro left
    simp [Layout.zeros, left]
  · intro right
    simp [Layout.blanks, right]

/-- The least word shows its sign, one zero for precision, all its digits and blanks. -/
theorem Field.render_number_least :
    let f : Field := ⟨.decimal, { width := 24, precision := some 20, left := true }⟩
    ∃ blanks,
      (f.render (some (.integer Int64.minValue))).toList =
        "-09223372036854775808".toList ++ List.replicate blanks ' ' ∧
      (f.render (some (.integer Int64.minValue))).length = 24 := by
  intro f
  have digits : Conversion.decimal.digits Int64.minValue = "9223372036854775808".toList := by
    decide +kernel
  obtain ⟨zeros, blanks, printed, size, front, _⟩ :=
    @render_number .decimal rfl f.layout (some (.integer Int64.minValue))
  rw [front rfl] at printed
  simp only [Option.map_some, Value.toInteger, Option.getD_some, digits] at printed size
  exact ⟨blanks, printed, size⟩

end TermTemplate
