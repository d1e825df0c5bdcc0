import TermTemplate.Proofs.CheckedRendering
import TermTemplate.Proofs.PrintedInteger
import TermTemplate.Proofs.WrappingArithmetic

/-! What texts count as in arithmetic. Every text is white space, a sign or none, digits and a rest,
and it counts as the one word congruent to the signed number that the digits denote, however many
they are. White space and rest make no difference, and an integer that is passed on as the text that
it prints as counts as itself. -/
namespace TermTemplate

inductive Sign
  | plus
  | minus
  deriving DecidableEq, Repr

namespace Sign

def char : Sign → Char
  | plus => '+'
  | minus => '-'

def apply (n : Int) : Sign → Int
  | plus => n
  | minus => -n

def applyWord (w : Int64) : Sign → Int64
  | plus => w
  | minus => -w

/-- The sign may be applied before or after wrapping, also where the negative is out of range. -/
theorem ofInt_apply (s : Sign) (n : Int) :
    Int64.ofInt (s.apply n) = s.applyWord (Int64.ofInt n) := by
  cases s with
  | plus => rfl
  | minus => exact Int64.ofInt_neg n

theorem isWhiteSpace_char (s : Sign) : Text.isWhiteSpace s.char = false := by
  cases s <;> decide

end Sign

/-- A text taken apart into what is looked at for its integer. -/
structure NumericText where
  blanks : List Char
  sign : Option Sign
  digits : List Char
  rest : List Char
  blanks_mem : ∀ c ∈ blanks, Text.isWhiteSpace c
  digits_mem : ∀ c ∈ digits, c.isDigit
  rest_stops : ∀ c ∈ rest.head?, c.isDigit = false
  /-- Where there is neither a sign nor a digit, the rest does not start with what could stand
  before them. -/
  rest_apart : sign = none → digits = [] →
    ∀ c ∈ rest.head?, c ≠ '+' ∧ c ≠ '-' ∧ Text.isWhiteSpace c = false

namespace NumericText

def signChars (t : NumericText) : List Char := (t.sign.map Sign.char).toList

def body (t : NumericText) : List Char := t.signChars ++ (t.digits ++ t.rest)

def chars (t : NumericText) : List Char := t.blanks ++ t.body

def text (t : NumericText) : String := String.ofList t.chars

/-- The number that the digits denote, without a limit. No digits denote 0. -/
def magnitude (t : NumericText) : Nat := Nat.ofDigitChars 10 t.digits 0

def value (t : NumericText) : Int := (t.sign.getD .plus).apply t.magnitude

theorem readWord_digits (t : NumericText) :
    Text.readWord (t.digits ++ t.rest) = Int64.ofInt t.magnitude := by
  rw [Text.readWord_eq, Text.readNat_append t.digits_mem t.rest_stops, Int64.ofInt_eq_ofNat]
  rfl

/-- Without a sign, digits and rest do not look like one, nor like white space. -/
theorem head?_unsigned {t : NumericText} (unsigned : t.sign = none) :
    ∀ c ∈ (t.digits ++ t.rest).head?, c ≠ '+' ∧ c ≠ '-' ∧ Text.isWhiteSpace c = false := by
  intro c member
  cases written : t.digits with
  | nil =>
    rw [written] at member
    exact t.rest_apart unsigned written c member
  | cons d ds =>
    have digit := t.digits_mem d (by simp [written])
    obtain rfl : d = c := by simpa [written] using member
    refine ⟨?_, ?_, Text.isWhiteSpace_of_isDigit digit⟩
    · rintro rfl
      exact absurd digit (by decide)
    · rintro rfl
      exact absurd digit (by decide)

theorem dropWhile_chars (t : NumericText) : t.chars.dropWhile Text.isWhiteSpace = t.body := by
  have stop : ∀ c ∈ t.body.head?, Text.isWhiteSpace c = false := by
    intro c member
    cases signed : t.sign with
    | none =>
      simp only [body, signChars, signed] at member
      exact (head?_unsigned signed c member).2.2
    | some s =>
      obtain rfl : s.char = c := by simpa [body, signChars, signed] using member
      exact s.isWhiteSpace_char
  rw [chars, List.dropWhile_append_of_pos t.blanks_mem]
  cases front : t.body with
  | nil => rfl
  | cons c cs => simp [stop c (by simp [front])]

theorem leadingInteger_eq_readWord (t : NumericText) :
    Text.leadingInteger t.chars =
      (t.sign.getD .plus).applyWord (Text.readWord (t.digits ++ t.rest)) := by
  rw [Text.leadingInteger, dropWhile_chars]
  cases signed : t.sign with
  | some s =>
    have front : t.body = s.char :: (t.digits ++ t.rest) := by simp [body, signChars, signed]
    rw [front]
    cases s <;> rfl
  | none =>
    have front : t.body = t.digits ++ t.rest := by simp [body, signChars, signed]
    have apart := head?_unsigned signed
    rw [front]
    split
    case h_1 minus => exact absurd rfl (apart '-' (by simp [minus])).2.1
    case h_2 plus => exact absurd rfl (apart '+' (by simp [plus])).1
    case h_3 => rfl

/-- Digits wrap one by one and the sign is applied last; the whole number, wrapped once, is the same
word. -/
theorem leadingInteger_chars (t : NumericText) :
    Text.leadingInteger t.chars = Int64.ofInt t.value := by
  rw [leadingInteger_eq_readWord, readWord_digits, value, Sign.ofInt_apply]

theorem toInteger_text (t : NumericText) :
    (Value.text t.text).toInteger = Int64.ofInt t.value := by
  rw [Value.toInteger, text, String.toList_ofList, leadingInteger_chars]

theorem exists_sign (cs : List Char) : ∃ (sign : Option Sign) (tail : List Char),
    cs = (sign.map Sign.char).toList ++ tail ∧
    (sign = none → ∀ c ∈ tail.head?, c ≠ '+' ∧ c ≠ '-') := by
  by_cases signed : ∃ s : Sign, cs.head? = some s.char
  · obtain ⟨s, head⟩ := signed
    obtain ⟨tail, rfl⟩ := List.head?_eq_some_iff.mp head
    exact ⟨some s, tail, rfl, nofun⟩
  · refine ⟨none, cs, rfl, fun _ c member => ⟨?_, ?_⟩⟩
    · rintro rfl
      exact signed ⟨.plus, member⟩
    · rintro rfl
      exact signed ⟨.minus, member⟩

theorem exists_chars (cs : List Char) : ∃ t : NumericText, t.chars = cs := by
  obtain ⟨sign, tail, front, unsigned⟩ := exists_sign (cs.dropWhile Text.isWhiteSpace)
  obtain ⟨digits, split, inside, -, stop⟩ := Text.readNat_split tail
  refine ⟨{ blanks := cs.takeWhile Text.isWhiteSpace, sign, digits, rest := (Text.readNat tail).2
            blanks_mem := List.all_eq_true.mp List.all_takeWhile
            digits_mem := inside
            rest_stops := stop
            rest_apart := ?_ }, ?_⟩
  · rintro rfl rfl c member
    -- The rest is all that follows the white space, which was passed over as far as it goes.
    rw [List.nil_append] at split
    rw [← split] at member
    have blank := List.head?_dropWhile_not Text.isWhiteSpace cs
    rw [front, Option.map_none, Option.toList_none, List.nil_append,
      Option.mem_def.mp member] at blank
    exact ⟨(unsigned rfl c member).1, (unsigned rfl c member).2, by simpa using blank⟩
  · have whole : cs.takeWhile Text.isWhiteSpace ++ cs.dropWhile Text.isWhiteSpace = cs :=
      List.takeWhile_append_dropWhile
    rw [front, split] at whole
    exact whole

def ofWritten (w : WrittenInteger) : NumericText where
  blanks := []
  sign := if w.negative then some .minus else none
  digits := w.digits
  rest := []
  blanks_mem := by simp
  digits_mem := w.digits_mem
  rest_stops := by simp
  rest_apart := by simp

theorem chars_ofWritten (w : WrittenInteger) : (ofWritten w).chars = w.chars := by
  cases negative : w.negative <;>
    simp [chars, body, signChars, ofWritten, WrittenInteger.chars, negative, Sign.char]

theorem value_ofWritten (w : WrittenInteger) : (ofWritten w).value = w.value := by
  cases negative : w.negative <;>
    simp [value, magnitude, ofWritten, WrittenInteger.value, WrittenInteger.magnitude, negative,
      Sign.apply]

end NumericText

theorem Value.toInteger_display (n : Int64) :
    (Value.text (toString (Value.integer n))).toInteger = n := by
  let written := WrittenInteger.ofInt n.toInt
  have printed : toString (Value.integer n) = (NumericText.ofWritten written).text := by
    rw [NumericText.text, NumericText.chars_ofWritten, WrittenInteger.chars_ofInt]
    rfl
  rw [printed, NumericText.toInteger_text, NumericText.value_ofWritten, WrittenInteger.value_ofInt,
    Int64.ofInt_toInt]

/-- A text counts as the one word congruent to the signed number that its leading digits denote,
looked at by characters or by bytes, and whatever stands around them. Every text has this form, and
an integer can be passed on as the text that it prints as. -/
theorem texts_count_modulo_words :
    (∀ t : NumericText, ∃ w : Int64, (∀ u : Int64, u.toInt ≡ t.value [ZMOD 2 ^ 64] ↔ u = w) ∧
      (Value.text t.text).toInteger = w ∧ Checked.toInteger? (.text t.text) = some w) ∧
    (∀ t u : NumericText, t.sign = u.sign → t.digits = u.digits →
      (Value.text t.text).toInteger = (Value.text u.text).toInteger) ∧
    (∀ s : String, ∃ t : NumericText, t.text = s) ∧
    (∀ n : Int64, (Value.text (toString (Value.integer n))).toInteger = n) := by
  refine ⟨fun t => ?_, fun t u sign digits => ?_, fun s => ?_, Value.toInteger_display⟩
  · refine ⟨_, fun u => toInt_modEq_iff u t.value, t.toInteger_text, ?_⟩
    rw [Checked.toInteger?_eq, t.toInteger_text]
  · have same : t.value = u.value := by
      simp only [NumericText.value, NumericText.magnitude, sign, digits]
    rw [t.toInteger_text, u.toInteger_text, same]
  · obtain ⟨t, whole⟩ := NumericText.exists_chars s.toList
    exact ⟨t, by rw [NumericText.text, whole, String.ofList_toList]⟩

/-- One more than the magnitude of the least word wraps to the greatest one, and the number does not
go on behind the letter. -/
theorem texts_count_modulo_words_wrapped :
    (Value.text "\u3000\t-9223372036854775809é7").toInteger = 9223372036854775807 ∧
    (Value.text "-9223372036854775809").toInteger = 9223372036854775807 := by
  let wide : NumericText :=
    { blanks := ['\u3000', '\t'], sign := some .minus, digits := "9223372036854775809".toList
      rest := ['é', '7']
      blanks_mem := List.all_eq_true.mp (by decide +kernel)
      digits_mem := List.all_eq_true.mp (by decide +kernel)
      rest_stops := by rintro c ⟨⟩; decide
      rest_apart := nofun }
  let plain : NumericText :=
    { wide with
      blanks := [], rest := [], blanks_mem := nofun, rest_stops := nofun, rest_apart := nofun }
  have first : wide.text = "\u3000\t-9223372036854775809é7" := by decide +kernel
  have second : plain.text = "-9223372036854775809" := by decide +kernel
  obtain ⟨word, same, -⟩ := texts_count_modulo_words
  obtain ⟨w, one, counts, -⟩ := word wide
  have greatest : w = 9223372036854775807 := ((one _).mp (by decide +kernel)).symm
  have equal := same wide plain rfl rfl
  rw [counts, greatest] at equal
  rw [← first, ← second, counts, ← equal]
  exact ⟨greatest, rfl⟩

end TermTemplate
