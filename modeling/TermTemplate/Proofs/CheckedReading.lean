import Mathlib.Algebra.Group.Nat.Defs
import TermTemplate.Checked.Reading
import TermTemplate.Proofs.FieldReaders
import TermTemplate.Proofs.NormalForm

/-! Reading meets no operation outside its domain, whatever the text: each reader only works on
characters that it has tested, and stops before a number is too great. -/
namespace TermTemplate.Checked

open Template

theorem digit?_of_isDigit {c : Char} (digit : c.isDigit) : digit? c = some (c.toNat - '0'.toNat) :=
  sub?_of_le (Text.bounds_of_isDigit digit).1

theorem octal_bounds {c : Char} (octal : isOctalDigit c) : 48 ≤ c.toNat ∧ c.toNat ≤ 55 := by
  simpa [isOctalDigit, Char.le_def, UInt32.le_iff_toNat_le] using octal

theorem pushOctal?_eq {code : Nat} {c : Char} (octal : isOctalDigit c)
    (fits : 8 * (code + 1) ≤ UInt32.size) :
    pushOctal? code c = some (8 * code + (c.toNat - '0'.toNat)) := by
  have bounds := octal_bounds octal
  have zero : '0'.toNat = 48 := rfl
  have digit : digit? c = some (c.toNat - '0'.toNat) := sub?_of_le bounds.1
  have eightfold : unsigned? UInt32.size (code * 8) = some (code * 8) := unsigned?_of_lt (by omega)
  have sum : unsigned? UInt32.size (code * 8 + (c.toNat - '0'.toNat)) =
      some (code * 8 + (c.toNat - '0'.toNat)) := unsigned?_of_lt (by omega)
  simp only [pushOctal?, eightfold, digit, Option.bind_eq_bind, Option.bind_some, sum, Nat.mul_comm]

/-- As long as there is room for the digits to come, octal digits add up to the code that they
denote. -/
theorem foldlM_pushOctal? {ds : List Char} (octal : ∀ c ∈ ds, isOctalDigit c) {code : Nat}
    (fits : (code + 1) * 8 ^ ds.length ≤ UInt32.size) :
    ds.foldlM pushOctal? code = some (Nat.ofDigitChars 8 ds code) := by
  induction ds generalizing code with
  | nil => rfl
  | cons c ds ih =>
    obtain ⟨first, rest⟩ := List.forall_mem_cons.mp octal
    have positive : 0 < 8 ^ ds.length := Nat.pow_pos (by decide)
    -- One digit less is to come, and the code is at most eight times what it was, and seven.
    have room : 8 * (code + 1) * 8 ^ ds.length ≤ UInt32.size := by
      rwa [List.length_cons, Nat.pow_succ, ← Nat.mul_assoc, Nat.mul_right_comm, Nat.mul_comm _ 8] at fits
    have now : 8 * (code + 1) ≤ UInt32.size := Nat.le_trans (Nat.le_mul_of_pos_right _ positive) room
    have later : (8 * code + (c.toNat - '0'.toNat) + 1) * 8 ^ ds.length ≤ UInt32.size := by
      have bounds := octal_bounds first
      have zero : '0'.toNat = 48 := rfl
      exact Nat.le_trans (Nat.mul_le_mul_right _ (by omega)) room
    rw [List.foldlM_cons, pushOctal?_eq first now, Nat.ofDigitChars_cons]
    exact ih rest later

theorem readEscape?_eq (cs : List Char) : readEscape? cs = some (readEscape cs) := by
  cases cs with
  | nil => rfl
  | cons c cs =>
    have octal : ∀ d ∈ octalPart (c :: cs), isOctalDigit d := List.all_eq_true.mp List.all_takeWhile
    have short : (octalPart (c :: cs)).length ≤ 3 :=
      Nat.le_trans (List.takeWhile_prefix _).length_le (List.length_take_le 3 _)
    have room : (0 + 1) * 8 ^ (octalPart (c :: cs)).length ≤ UInt32.size :=
      Nat.le_trans (Nat.mul_le_mul_left _ (Nat.pow_le_pow_right (by decide) short)) (by decide)
    rw [readEscape?, readEscape]
    cases escapeLetter? c with
    | some d => rfl
    | none =>
      by_cases digit : isOctalDigit c
      · simp [digit, foldlM_pushOctal? octal room]
      · simp [digit]

theorem readParameter?_eq (cs : List Char) : readParameter? cs = some (readParameter cs) := by
  cases cs with
  | nil => rfl
  | cons c cs =>
    by_cases digit : '1' ≤ c ∧ c ≤ '9'
    · have bounds : 49 ≤ c.toNat ∧ c.toNat ≤ 57 := by
        simpa [Char.le_def, UInt32.le_iff_toNat_le] using digit
      have number : digit? c = some (c.toNat - 48) := sub?_of_le (Nat.le_of_succ_le bounds.1)
      have index : sub? (c.toNat - 48) 1 = some (c.toNat - 49) := sub?_of_le (by omega)
      simp only [readParameter?, readParameter, if_pos digit, number, index, Option.bind_eq_bind,
        Option.bind_some]
      rfl
    · simp only [readParameter?, readParameter, if_neg digit]

theorem toNat_le {a b : Char} (le : a ≤ b) : a.toNat ≤ b.toNat :=
  UInt32.le_iff_toNat_le.mp (Char.le_def.mp le)

theorem variableIndex?_of_between {first last c : Char} (span : last.toNat < first.toNat + 26)
    (between : first ≤ c ∧ c ≤ last) :
    ∃ i, letterIndex? first c = some i ∧ variableIndex? first c = some i := by
  have least := toNat_le between.1
  have greatest := toNat_le between.2
  have inside : c.toNat - first.toNat < 26 := by omega
  refine ⟨⟨c.toNat - first.toNat, inside⟩, dif_pos ⟨between.1, inside⟩, ?_⟩
  rw [variableIndex?, sub?_of_le least]
  exact index?_of_lt inside

theorem letterIndex?_of_outside {first last c : Char} (span : first.toNat + 26 ≤ last.toNat + 1)
    (outside : ¬(first ≤ c ∧ c ≤ last)) : letterIndex? first c = none := by
  apply dif_neg
  rintro ⟨least, inside⟩
  refine outside ⟨least, Char.le_def.mpr (UInt32.le_iff_toNat_le.mpr ?_)⟩
  have := toNat_le least
  change c.toNat ≤ last.toNat
  omega

theorem readVariable?_eq (cs : List Char) : readVariable? cs = some (readVariable cs) := by
  cases cs with
  | nil => rfl
  | cons c cs =>
    rw [readVariable?, readVariable, Variable.ofLetter?]
    by_cases small : 'a' ≤ c ∧ c ≤ 'z'
    · obtain ⟨i, known, index⟩ := variableIndex?_of_between (by decide) small
      simp [if_pos small, known, index]
    · have noSmall : letterIndex? 'a' c = none := letterIndex?_of_outside (by decide) small
      rw [if_neg small, noSmall]
      by_cases capital : 'A' ≤ c ∧ c ≤ 'Z'
      · obtain ⟨i, known, index⟩ := variableIndex?_of_between (by decide) capital
        simp [if_pos capital, known, index]
      · have noCapital : letterIndex? 'A' c = none := letterIndex?_of_outside (by decide) capital
        rw [if_neg capital, noCapital]
        rfl

theorem readCharacter?_eq (cs : List Char) : readCharacter? cs = some (readCharacter cs) := by
  cases cs with
  | nil => rfl
  | cons c cs =>
    have inner : (if c = '\\' then readEscape? cs else some (c, cs)) =
        some (if c = '\\' then readEscape cs else (c, cs)) := by
      split
      · exact readEscape?_eq cs
      · rfl
    rw [readCharacter?, inner]
    rfl

def closeMagnitude (sign : Int) (found : Nat × List Char) : Except Cause (Int64 × List Char) :=
  if greatestInteger < found.1 then .error .integerOverflow
  else match found.2 with
    | '\x7d' :: rest => .ok (Int64.ofInt (sign * found.1), rest)
    | _ :: _ => .error .malformedInteger
    | [] => .error .unexpectedEnd

theorem signed?_natCast (n : Nat) :
    signed? n = if n ≤ greatestInteger then some (.ofInt n) else none := by
  have greatest : (greatestInteger : Int) = Int64.maxValue.toInt := rfl
  have least : Int64.minValue.toInt ≤ 0 := by decide
  by_cases fits : n ≤ greatestInteger
  · rw [if_pos fits]
    exact signed?_of_le (by omega) (by omega)
  · rw [if_neg fits]
    exact if_neg (by omega)

theorem signed?_neg_natCast {n : Nat} (fits : n ≤ greatestInteger) :
    signed? (-n) = some (.ofInt (-n)) := by
  have greatest : (greatestInteger : Int) = Int64.maxValue.toInt := rfl
  have least : Int64.minValue.toInt = -Int64.maxValue.toInt - 1 := by decide
  exact signed?_of_le (by omega) (by omega)

theorem toInt_ofInt_natCast {n : Nat} (fits : n ≤ greatestInteger) : (Int64.ofInt n).toInt = n := by
  have greatest : greatestInteger = 2 ^ 63 - 1 := rfl
  exact Int64.toInt_ofInt_of_le (by omega) (by omega)

/-- That a product is too great is found out no later than that the sum is. -/
theorem pushDecimal?_eq {n d : Nat} (bound : n ≤ greatestInteger) :
    pushDecimal? (.ofInt n) d =
      if 10 * n + d ≤ greatestInteger then some (.ofInt (10 * n + d : Nat)) else none := by
  have product : (Int64.ofInt n).toInt * 10 = (10 * n : Nat) := by
    rw [toInt_ofInt_natCast bound]
    omega
  rw [pushDecimal?, product, signed?_natCast]
  by_cases fits : 10 * n ≤ greatestInteger
  · have sum : (Int64.ofInt (10 * n : Nat)).toInt + d = (10 * n + d : Nat) := by
      rw [toInt_ofInt_natCast fits]
      omega
    rw [if_pos fits, Option.bind_eq_bind, Option.bind_some, sum]
    exact signed?_natCast _
  · rw [if_neg fits, if_neg (by omega)]
    rfl

/-- The word that is made digit by digit is refused when the whole number is, and never earlier. -/
theorem readMagnitude?_eq (negative : Bool) {n : Nat} (bound : n ≤ greatestInteger) (cs : List Char) :
    readMagnitude? negative (.ofInt n) cs =
      some (closeMagnitude (if negative then -1 else 1)
        (Nat.ofDigitChars 10 (cs.takeWhile Char.isDigit) n, cs.dropWhile Char.isDigit)) := by
  induction cs generalizing n with
  | nil => simp [readMagnitude?, closeMagnitude, Nat.not_lt.mpr bound]
  | cons c cs ih =>
    by_cases brace : c = '\x7d'
    · subst brace
      cases negative <;>
        simp [readMagnitude?, closeMagnitude, Nat.not_lt.mpr bound, toInt_ofInt_natCast bound,
          signed?_neg_natCast bound]
    · by_cases digit : c.isDigit
      · simp only [readMagnitude?, if_neg brace, digit, if_true, digit?_of_isDigit digit,
          Option.bind_eq_bind, Option.bind_some, List.takeWhile_cons, List.dropWhile_cons,
          Nat.ofDigitChars_cons]
        by_cases fits : 10 * n + (c.toNat - '0'.toNat) ≤ greatestInteger
        · rw [pushDecimal?_eq bound, if_pos fits]
          exact ih fits
        · have great : greatestInteger < Nat.ofDigitChars 10 (cs.takeWhile Char.isDigit)
              (10 * n + (c.toNat - '0'.toNat)) :=
            Nat.lt_of_lt_of_le (Nat.not_le.mp fits) (Text.le_ofDigitChars _ _)
          rw [pushDecimal?_eq bound, if_neg fits, closeMagnitude, if_pos great]
      · simp [readMagnitude?, closeMagnitude, Nat.not_lt.mpr bound, brace, digit]

theorem readInteger?_eq (cs : List Char) : readInteger? cs = some (readInteger cs) := by
  by_cases minus : cs.head? = some '-'
  · obtain ⟨ds, rfl⟩ := List.head?_eq_some_iff.mp minus
    exact readMagnitude?_eq true (Nat.zero_le _) ds
  · have unsigned? : readInteger? cs = readMagnitude? false 0 cs := by
      rw [readInteger?.eq_def]
      split
      · exact absurd rfl minus
      · rfl
    have unsigned : readInteger cs = readMagnitude 1 cs := by
      rw [readInteger.eq_def]
      split
      · exact absurd rfl minus
      · rfl
    rw [unsigned?, unsigned]
    exact readMagnitude?_eq false (Nat.zero_le _) cs

theorem pushWidth?_eq (n : Nat) (c : Char) :
    pushWidth? n (c.toNat - '0'.toNat) = pushDigit? n c := by
  have limit : UInt16.size = Layout.limit + 1 := rfl
  rw [pushWidth?, pushDigit?, unsigned?]
  by_cases tens : n * 10 < UInt16.size
  · rw [if_pos tens, Option.bind_eq_bind, Option.bind_some, unsigned?, Nat.mul_comm n 10]
    by_cases fits : 10 * n + (c.toNat - '0'.toNat) ≤ Layout.limit
    · rw [if_pos fits, if_pos (by omega)]
    · rw [if_neg fits, if_neg (by omega)]
  · rw [if_neg tens, if_neg (by omega)]
    rfl

theorem step?_eq (stage : Stage) (l : Layout) (c : Char) : step? l c stage = some (stage.step l c) := by
  by_cases digit : c.isDigit
  · rw [step?, if_pos digit, digit?_of_isDigit digit, Option.map_some]
    cases stage with
    | flags => simp [stepDigit, Stage.step, Layout.addFlag?_of_isDigit l digit, digit]
    | width =>
      have same := pushWidth?_eq l.width c
      cases pushed : pushDigit? l.width c <;>
        simp only [stepDigit, Stage.step, digit, if_true, same, pushed]
    | precision =>
      have same := pushWidth?_eq (l.precision.getD 0) c
      cases pushed : pushDigit? (l.precision.getD 0) c <;>
        simp only [stepDigit, Stage.step, digit, if_true, same, pushed]
  · rw [step?, if_neg digit]

theorem scanField?_eq (stage : Stage) (l : Layout) (cs : List Char) :
    scanField? stage l cs = some (scanField stage l cs) := by
  induction cs generalizing stage l with
  | nil => rfl
  | cons c cs ih =>
    rw [scanField?, scanField, step?_eq]
    cases Conversion.ofChar? c with
    | some conversion => rfl
    | none =>
      simp only [Option.bind_eq_bind, Option.bind_some]
      cases stage.step l c with
      | error cause => rfl
      | ok pair => exact ih pair.1 pair.2

theorem action_eq {α : Type} {r? : Reader α} {r : Template.Reader α} (same : ∀ cs, r? cs = some (r cs))
    (f : α → Action) (cs : List Char) : Reader.action r? f cs = some (r.action f cs) := by
  rw [Reader.action, same]
  rfl

theorem readField?_eq (cs : List Char) : scanField? .flags {} cs = some (readField cs) := by
  rw [scanField?_eq, scanField_eq_readField]

theorem readDirective?_eq (cs : List Char) : readDirective? cs = some (readDirective cs) := by
  cases cs with
  | nil => rfl
  | cons c cs =>
    cases letter : Token.ofLetter? c with
    | some t => simp only [readDirective?, readDirective, letter]
    | none =>
      rw [readDirective_of_none letter, readOperand.eq_def]
      simp only [readDirective?, letter]
      split
      · rfl
      · exact action_eq readParameter?_eq id cs
      · exact action_eq readVariable?_eq .set cs
      · exact action_eq readVariable?_eq .get cs
      · exact action_eq readCharacter?_eq .integer cs
      · exact action_eq readInteger?_eq .integer cs
      · exact action_eq readField?_eq .print cs
      · by_cases starts : startsLayout c
        · simp only [starts, if_true]
          exact action_eq readField?_eq .print (c :: cs)
        · simp [starts]

theorem readLexeme?_eq (c : Char) (cs : List Char) : readLexeme? c cs = some (readLexeme c cs) := by
  rw [readLexeme?.eq_def]
  split
  · exact readDirective?_eq cs
  · rw [readEscape?_eq]
    rfl
  · rfl

theorem lexemes?_eq (cs : List Char) : lexemes? cs = some (lexemes cs) := by
  fun_induction lexemes cs with
  | case1 => rw [lexemes?]
  | case2 c cs cause failed => simp [lexemes?, readLexeme?_eq, failed]
  | case3 c cs x rest read ih =>
    have shorter : rest.length ≤ cs.length := (readLexeme_suffix read).length_le
    simp [lexemes?, readLexeme?_eq, read, shorter, ih]

/-- Every template is read within the domains of all operations, up to its end or to the directive
that it is refused for. -/
theorem tokens?_eq (source : String) : tokens? source = some (tokens source) := by
  rw [tokens?, tokens, lexemes?_eq, Option.bind_eq_bind, Option.bind_some]
  cases failed : lexemes source.toList with
  | ok xs => rfl
  | error f =>
    have inside := utf8ByteSize_suffix (lexemes_failure_suffix failed)
    simp [sub?_of_le inside]

end TermTemplate.Checked
