import TermTemplate.Checked.Rendering

/-! Values are printed within the domains of all operations. Texts are cut between characters, since
that is where characters start and since a byte that is a sign or a digit is a character by itself;
and numbers are filled only where they leave room. -/
namespace TermTemplate.Checked

theorem byteSize_nil : byteSize [] = 0 := rfl

theorem byteSize_cons (c : Char) (cs : List Char) : byteSize (c :: cs) = c.utf8Size + byteSize cs := by
  have split : String.ofList (c :: cs) = String.singleton c ++ String.ofList cs := by
    rw [String.singleton_eq_ofList, ← String.ofList_append]
    rfl
  rw [byteSize, split, String.utf8ByteSize_append, String.utf8ByteSize_singleton]
  rfl

theorem bytes_ofList (cs : List Char) : bytes (String.ofList cs) = cs.flatMap String.utf8EncodeChar := by
  rw [bytes, String.toByteArray_ofList]
  simp [List.utf8Encode]

/-- A character below 128 is one byte, its code. The first byte of any other is 128 or above. -/
theorem utf8EncodeChar_eq_cons (c : Char) :
    ∃ b bs, String.utf8EncodeChar c = b :: bs ∧
      (c.toNat < 128 ∧ b.toNat = c.toNat ∧ bs = [] ∨ 128 ≤ c.toNat ∧ 128 ≤ b.toNat) := by
  have small {n : Nat} (fits : n < 256) : (UInt8.ofNat n).toNat = n := by
    rw [UInt8.toNat_ofNat', Nat.mod_eq_of_lt fits]
  have code : c.toNat = c.val.toNat := rfl
  simp only [String.utf8EncodeChar]
  split
  · exact ⟨_, _, rfl, .inl ⟨by omega, small (by omega), rfl⟩⟩
  · split
    · exact ⟨_, _, rfl, .inr ⟨by omega, by rw [small (by omega)]; omega⟩⟩
    · split
      · exact ⟨_, _, rfl, .inr ⟨by omega, by rw [small (by omega)]; omega⟩⟩
      · exact ⟨_, _, rfl, .inr ⟨by omega, by rw [small (by omega)]; omega⟩⟩

theorem isDigitByte_of_toNat {b : UInt8} {c : Char} (same : b.toNat = c.toNat) :
    isDigitByte b = c.isDigit := by
  rw [isDigitByte, same, Char.isDigit, Bool.eq_iff_iff]
  simp [UInt32.le_iff_toNat_le]

/-- The digits among the bytes are the digits among the characters, and each is one byte. -/
theorem foldlM_pushByte? (cs : List Char) (value : Int64) :
    ((cs.flatMap String.utf8EncodeChar).takeWhile isDigitByte).foldlM pushByte? value =
      some ((cs.takeWhile Char.isDigit).foldl (fun n c => 10 * n + Text.digitWord c) value) := by
  induction cs generalizing value with
  | nil => rfl
  | cons c cs ih =>
    obtain ⟨b, bs, encoded, ⟨ascii, same, rfl⟩ | ⟨wide, great⟩⟩ := utf8EncodeChar_eq_cons c
    · rw [List.flatMap_cons, encoded, List.singleton_append, List.takeWhile_cons, List.takeWhile_cons,
        isDigitByte_of_toNat same]
      by_cases digit : c.isDigit
      · have pushed : pushByte? value b = some (10 * value + Text.digitWord c) := by
          have value : sub? c.toNat '0'.toNat = some (c.toNat - '0'.toNat) :=
            sub?_of_le (Text.bounds_of_isDigit digit).1
          rw [pushByte?, same, value]
          rfl
        simp only [digit, if_true, List.foldlM_cons, pushed, List.foldl_cons]
        exact ih _
      · simp [digit]
    · have byte : isDigitByte b = false := by
        simp only [isDigitByte, Bool.and_eq_false_iff, decide_eq_false_iff_not]
        omega
      have char : c.isDigit = false := by
        cases digit : c.isDigit with
        | false => rfl
        | true =>
          have := Text.bounds_of_isDigit digit
          omega
      simp [List.flatMap_cons, encoded, byte, char]

/-- A text starts with a byte below 128 where it starts with the character of that code. -/
theorem head?_bytes {c : Char} {b : UInt8} (same : b.toNat = c.toNat) (ascii : c.toNat < 128)
    (cs : List Char) : (bytes (String.ofList cs)).head? = some b ↔ cs.head? = some c := by
  rw [bytes_ofList]
  cases cs with
  | nil => simp
  | cons d cs =>
    obtain ⟨first, bs, encoded, kind⟩ := utf8EncodeChar_eq_cons d
    simp only [List.flatMap_cons, encoded, List.cons_append, List.head?_cons, Option.some.injEq,
      ← UInt8.toNat_inj, ← Char.toNat_inj]
    omega

theorem head?_bytes_minus (cs : List Char) :
    (bytes (String.ofList cs)).head? = some 45 ↔ cs.head? = some '-' :=
  head?_bytes rfl (by decide) cs

theorem isSign_head?_bytes (cs : List Char) :
    isSign (bytes (String.ofList cs)).head? ↔ cs.head? = some '-' ∨ cs.head? = some '+' := by
  have plus : (bytes (String.ofList cs)).head? = some 43 ↔ cs.head? = some '+' :=
    head?_bytes rfl (by decide) cs
  simp only [isSign, Bool.or_eq_true, decide_eq_true_eq, head?_bytes_minus, plus]

/-- A sign is one byte, so the text behind it starts with a character. -/
theorem behindSign?_cons {c : Char} (sign : c = '-' ∨ c = '+') (cs : List Char) :
    behindSign? (String.ofList (c :: cs)) = some (String.ofList cs) := by
  have split : String.ofList (c :: cs) = String.ofList [c] ++ String.ofList cs := by
    rw [← String.ofList_append]
    rfl
  have single : (String.ofList [c]).utf8ByteSize = 1 := by
    rcases sign with rfl | rfl <;> rfl
  have found : isSign (bytes (String.ofList (c :: cs))).head? := by
    apply (isSign_head?_bytes _).mpr
    rcases sign with rfl | rfl
    · exact .inl rfl
    · exact .inr rfl
  rw [behindSign?, if_pos found, split, ← single]
  exact sliceFrom?_append _ _

theorem behindSign?_of_unsigned {cs : List Char} (minus : cs.head? ≠ some '-')
    (plus : cs.head? ≠ some '+') : behindSign? (String.ofList cs) = some (String.ofList cs) :=
  if_neg fun sign => ((isSign_head?_bytes cs).mp sign).elim minus plus

theorem foldlM_bytes (cs : List Char) :
    ((bytes (String.ofList cs)).takeWhile isDigitByte).foldlM pushByte? 0 = some (Text.readWord cs) := by
  rw [bytes_ofList]
  exact foldlM_pushByte? cs 0

theorem leadingInteger?_eq (s : String) : leadingInteger? s = some (Text.leadingInteger s.toList) := by
  simp only [leadingInteger?, Text.leadingInteger, head?_bytes_minus]
  generalize s.toList.dropWhile Text.isWhiteSpace = cs
  by_cases minus : cs.head? = some '-'
  · obtain ⟨ds, rfl⟩ := List.head?_eq_some_iff.mp minus
    show _ = some (-Text.readWord ds)
    simp only [behindSign?_cons (.inl rfl) ds, Option.bind_eq_bind, Option.bind_some, foldlM_bytes,
      if_pos minus]
  · by_cases plus : cs.head? = some '+'
    · obtain ⟨ds, rfl⟩ := List.head?_eq_some_iff.mp plus
      show _ = some (Text.readWord ds)
      simp only [behindSign?_cons (.inr rfl) ds, Option.bind_eq_bind, Option.bind_some, foldlM_bytes,
        if_neg minus]
    · simp only [behindSign?_of_unsigned minus plus, Option.bind_eq_bind, Option.bind_some, foldlM_bytes,
        if_neg minus]
      split
      · exact absurd rfl minus
      · exact absurd rfl plus
      · rfl

theorem toInteger?_eq (v : Value) : toInteger? v = some v.toInteger := by
  cases v with
  | integer n => rfl
  | text s => exact leadingInteger?_eq s

theorem getElem?_offsets (start n : Nat) (cs : List Char) :
    (offsets start cs)[n]? = if n < cs.length then some (start + byteSize (cs.take n)) else none := by
  induction cs generalizing start n with
  | nil => simp [offsets]
  | cons c cs ih =>
    cases n with
    | zero => simp [offsets, byteSize_nil]
    | succ n => simp [offsets, ih, byteSize_cons, Nat.add_assoc]

theorem cut?_eq (l : Layout) (cs : List Char) :
    cut? l (String.ofList cs) = some (String.ofList (l.cut cs)) := by
  rw [cut?, Layout.cut]
  cases l.precision with
  | none => rfl
  | some n =>
    rw [Option.bind_some, String.toList_ofList, getElem?_offsets, Nat.zero_add]
    by_cases inside : n < cs.length
    · have split : String.ofList cs = String.ofList (cs.take n) ++ String.ofList (cs.drop n) := by
        rw [← String.ofList_append, List.take_append_drop]
      simp only [inside, if_true]
      rw [split]
      exact truncate?_append _ _
    · simp only [inside, if_false, List.take_of_length_le (Nat.not_lt.mp inside)]

/-- Texts in which every character is one byte. -/
def Ascii (cs : List Char) : Prop := ∀ c ∈ cs, c.toNat < 128

instance (cs : List Char) : Decidable (Ascii cs) :=
  List.decidableBAll (fun c : Char => c.toNat < 128) cs

theorem byteSize_of_ascii {cs : List Char} (ascii : Ascii cs) : byteSize cs = cs.length := by
  induction cs with
  | nil => rfl
  | cons c cs ih =>
    obtain ⟨first, rest⟩ := List.forall_mem_cons.mp ascii
    have single : c.utf8Size = 1 := by
      rw [Char.utf8Size_eq_one_iff, UInt32.le_iff_toNat_le]
      exact Nat.le_of_lt_succ first
    rw [byteSize_cons, single, ih rest, List.length_cons, Nat.add_comm]

namespace Ascii

theorem leftpad {cs : List Char} (ascii : Ascii cs) (n : Nat) : Ascii (cs.leftpad n '0') := by
  intro c member
  rcases List.mem_append.mp member with fill | member
  · rw [List.eq_of_mem_replicate fill]
    decide
  · exact ascii c member

theorem map_toUpper {cs : List Char} (ascii : Ascii cs) : Ascii (cs.map Char.toUpper) := by
  have all : ∀ i : Fin 128, (Char.ofNat i).toUpper.toNat < 128 := by decide
  intro c member
  obtain ⟨d, inside, rfl⟩ := List.mem_map.mp member
  have upper := all ⟨d.toNat, ascii d inside⟩
  rwa [Char.ofNat_toNat] at upper

theorem ite {p : Prop} [Decidable p] {cs ds : List Char} (first : Ascii cs) (second : Ascii ds) :
    Ascii (if p then cs else ds) := by
  split
  · exact first
  · exact second

theorem toDigits {base : Nat} (least : 1 < base) (greatest : base ≤ 16) (n : Nat) :
    Ascii (Nat.toDigits base n) := by
  have digit : ∀ i : Fin 16, (Nat.digitChar i).toNat < 128 := by decide
  induction n using Nat.strongRecOn with
  | ind n ih =>
    intro c member
    rw [Nat.toDigits_eq_if least] at member
    split at member
    · rw [List.mem_singleton.mp member]
      exact digit ⟨n, by omega⟩
    · rcases List.mem_append.mp member with front | last
      · exact ih (n / base) (Nat.div_lt_self (by omega) least) c front
      · have small : n % base < base := Nat.mod_lt n (by omega)
        rw [List.mem_singleton.mp last]
        exact digit ⟨n % base, by omega⟩

end Ascii

structure AsciiNumeral (n : Numeral) : Prop where
  mark : Ascii n.mark
  digits : Ascii n.digits

namespace AsciiNumeral

theorem decimal (l : Layout) (n : Int64) : AsciiNumeral (.decimal l n) where
  mark := .ite (by decide) (.ite (by decide) (.ite (by decide) (by decide)))
  digits := (Ascii.toDigits (by decide) (by decide) _).leftpad _

theorem octal (l : Layout) (n : Int64) : AsciiNumeral (.octal l n) where
  mark := .ite (by decide) (by decide)
  digits := (Ascii.toDigits (by decide) (by decide) _).leftpad _

theorem hex (l : Layout) (n : Int64) : AsciiNumeral (.hex l n) where
  mark := .ite (by decide) (by decide)
  digits := (Ascii.toDigits (by decide) (by decide) _).leftpad _

theorem toUpper {n : Numeral} (ascii : AsciiNumeral n) : AsciiNumeral n.toUpper :=
  ⟨ascii.mark.map_toUpper, ascii.digits.map_toUpper⟩

end AsciiNumeral

/-- A number is filled where it is shorter than the width, so that what is to be filled is not
negative. -/
theorem fillNumeral?_eq (l : Layout) {n : Numeral} (ascii : AsciiNumeral n) :
    fillNumeral? l n = some (l.fillNumeral n) := by
  simp only [fillNumeral?, Layout.fillNumeral, byteSize_of_ascii ascii.mark,
    byteSize_of_ascii ascii.digits]
  by_cases full : l.width ≤ n.mark.length + n.digits.length
  · have behind : l.width - (n.mark.length + n.digits.length) = 0 := by omega
    have between : l.width - n.mark.length - n.digits.length = 0 := by omega
    cases l.left <;> simp [full, List.leftpad, List.rightpad, behind, between]
  · have fill : sub? l.width (n.mark.length + n.digits.length) =
        some (l.width - (n.mark.length + n.digits.length)) := sub?_of_le (by omega)
    have room : sub? l.width n.mark.length = some (l.width - n.mark.length) := sub?_of_le (by omega)
    cases l.left <;> simp [full, List.rightpad, fill, room]

theorem renderChars?_eq (f : Field) (v : Value) : renderChars? f v = some (f.renderChars (some v)) := by
  obtain ⟨conversion, l⟩ := f
  cases conversion <;> simp only [renderChars?, Field.renderChars, toInteger?_eq, cut?_eq,
    Option.bind_eq_bind, Option.bind_some, Option.map_some, Option.getD_some]
  case decimal => exact fillNumeral?_eq l (.decimal l _)
  case octal => exact fillNumeral?_eq l (.octal l _)
  case lowerHex => exact fillNumeral?_eq l (.hex l _)
  case upperHex => exact fillNumeral?_eq l (AsciiNumeral.hex l _).toUpper
  case string => rw [String.toList_ofList]

end TermTemplate.Checked
