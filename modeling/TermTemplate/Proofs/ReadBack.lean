import TermTemplate.Template.Normal
import TermTemplate.Template.Printer

/-! What is written is read back, whatever follows it. There is one lemma for each reader, from
numbers up to directives, and the text that follows is free in all of them. -/
namespace TermTemplate

namespace Text

theorem isDigit_toDigits {c : Char} {n : Nat} (member : c ∈ Nat.toDigits 10 n) : c.isDigit :=
  Nat.isDigit_of_mem_toDigits (by decide) (by decide) member

theorem toDigits_eq_cons (n : Nat) : ∃ c cs, Nat.toDigits 10 n = c :: cs ∧ c.isDigit := by
  obtain ⟨c, cs, written⟩ := List.exists_cons_of_ne_nil (Nat.toDigits_ne_nil (n := n) (b := 10))
  exact ⟨c, cs, written, isDigit_toDigits (n := n) (by simp [written])⟩

theorem readNat_toDigits (n : Nat) {c : Char} (rest : List Char) (stop : c.isDigit = false) :
    readNat (Nat.toDigits 10 n ++ c :: rest) = (n, c :: rest) := by
  have digits : ∀ d ∈ Nat.toDigits 10 n, d.isDigit := fun d member => isDigit_toDigits member
  simp [readNat, List.takeWhile_append_of_pos digits, List.dropWhile_append_of_pos digits, stop]

theorem readNat_stop {c : Char} (rest : List Char) (stop : c.isDigit = false) :
    readNat (c :: rest) = (0, c :: rest) := by
  simp [readNat, stop]

end Text

namespace Layout

theorem addFlag?_of_isDigit (l : Layout) {c : Char} (digit : c.isDigit) : l.addFlag? c = none := by
  unfold addFlag?
  split
  · exact absurd digit (by decide)
  · exact absurd digit (by decide)
  · exact absurd digit (by decide)
  · exact absurd digit (by decide)
  · rfl

theorem readFlags_source (l : Layout) {c : Char} (rest : List Char)
    (stop : ∀ l : Layout, l.addFlag? c = none) :
    readFlags {} (l.flagsSource ++ c :: rest) =
      ({ l with width := 0, precision := none }, c :: rest) := by
  have stopped (l : Layout) : readFlags l (c :: rest) = (l, c :: rest) := by
    simp only [readFlags, stop]
  obtain ⟨width, precision, alternate, left, sign, space⟩ := l
  cases left <;> cases sign <;> cases alternate <;> cases space <;> exact stopped _

/-- A character that neither continues nor starts any part of a layout. -/
structure Ends (c : Char) : Prop where
  flag : ∀ l : Layout, l.addFlag? c = none
  digit : c.isDigit = false
  point : c ≠ '.'

theorem ends_letter (conversion : Conversion) : Ends conversion.letter := by
  cases conversion <;> exact ⟨fun _ => rfl, rfl, by decide⟩

theorem readPrecision_source (l : Layout) {c : Char} (rest : List Char) (ends : Ends c) :
    readPrecision (l.precisionSource ++ c :: rest) = (l.precision, c :: rest) := by
  cases given : l.precision with
  | none =>
    simp only [precisionSource, given, List.nil_append]
    unfold readPrecision
    split
    · rename_i same
      exact absurd (List.cons.inj same).1 ends.point
    · rfl
  | some n => simp [precisionSource, given, readPrecision, Text.readNat_toDigits n rest ends.digit]

/-- The front of what follows the flags of a layout. -/
theorem afterFlags (l : Layout) {c : Char} (rest : List Char) (ends : Ends c) :
    ∃ d ds, l.widthSource ++ (l.precisionSource ++ c :: rest) = d :: ds ∧
      ∀ l : Layout, l.addFlag? d = none := by
  unfold widthSource
  split
  · unfold precisionSource
    split
    · exact ⟨c, rest, rfl, ends.flag⟩
    · exact ⟨'.', _, rfl, fun _ => rfl⟩
  · obtain ⟨d, ds, written, digit⟩ := Text.toDigits_eq_cons l.width
    exact ⟨d, _, by rw [written]; rfl, fun l => addFlag?_of_isDigit l digit⟩

theorem readNat_widthSource (l : Layout) {c : Char} (rest : List Char) (ends : Ends c) :
    Text.readNat (l.widthSource ++ (l.precisionSource ++ c :: rest)) =
      (l.width, l.precisionSource ++ c :: rest) := by
  have front : ∃ d ds, l.precisionSource ++ c :: rest = d :: ds ∧ d.isDigit = false := by
    unfold precisionSource
    split
    · exact ⟨c, rest, rfl, ends.digit⟩
    · exact ⟨'.', _, rfl, rfl⟩
  obtain ⟨d, ds, following, stop⟩ := front
  rw [following]
  by_cases zero : l.width = 0
  · simp [widthSource, zero, Text.readNat_stop ds stop]
  · simp [widthSource, zero, Text.readNat_toDigits l.width ds stop]

theorem read_source (l : Layout) {c : Char} (rest : List Char) (ends : Ends c) :
    read (l.source ++ c :: rest) = (l, c :: rest) := by
  obtain ⟨d, ds, following, stop⟩ := afterFlags l rest ends
  have flags := readFlags_source l ds stop
  rw [← following] at flags
  simp only [read, source, List.append_assoc, flags, readNat_widthSource l rest ends,
    readPrecision_source l rest ends]

end Layout

namespace Template

theorem readParameter_source {index : Nat} (normal : index < 9) (rest : List Char) :
    readParameter (Nat.toDigits 10 (index + 1) ++ rest) = .ok (.parameter index, rest) := by
  have digits : ∀ index : Fin 9, Nat.toDigits 10 (index + 1) = [(index.val + 1).digitChar] ∧
      '1' ≤ (index.val + 1).digitChar ∧ (index.val + 1).digitChar ≤ '9' ∧
      (index.val + 1).digitChar.toNat - '1'.toNat = index := by decide
  obtain ⟨written, low, high, value⟩ := digits ⟨index, normal⟩
  simp only [written, List.singleton_append, readParameter, low, high, value, and_self, if_true]

theorem readVariable_letter (v : Variable) (rest : List Char) :
    readVariable (v.letter :: rest) = .ok (v, rest) := by
  simp [readVariable]

theorem readMagnitude_source (sign : Int) {n : Nat} (fits : n ≤ greatestInteger)
    (rest : List Char) :
    readMagnitude sign (Nat.toDigits 10 n ++ '\x7d' :: rest) = .ok (.ofInt (sign * n), rest) := by
  simp only [readMagnitude, Text.readNat_toDigits n rest (c := '\x7d') rfl, Nat.not_lt.mpr fits,
    if_false]

theorem readInteger_decimal {n : Int64} (normal : n.toInt.natAbs ≤ greatestInteger)
    (rest : List Char) :
    readInteger (Text.decimal n.toInt ++ '\x7d' :: rest) = .ok (n, rest) := by
  unfold Text.decimal
  by_cases negative : n.toInt < 0
  · have value : -1 * (n.toInt.natAbs : Int) = n.toInt := by omega
    rw [if_pos negative, List.cons_append, readInteger, readMagnitude_source _ normal, value]
    simp
  · have value : 1 * (n.toInt.natAbs : Int) = n.toInt := by omega
    obtain ⟨d, ds, written, digit⟩ := Text.toDigits_eq_cons n.toInt.natAbs
    have unsigned : readInteger (Nat.toDigits 10 n.toInt.natAbs ++ '\x7d' :: rest) =
        readMagnitude 1 (Nat.toDigits 10 n.toInt.natAbs ++ '\x7d' :: rest) := by
      rw [written]
      unfold readInteger
      split
      · rename_i same
        rw [(List.cons.inj same).1] at digit
        cases digit
      · rfl
    rw [if_neg negative, unsigned, readMagnitude_source _ normal, value]
    simp

theorem readField_source {f : Field} (normal : f.layout.Normal) (rest : List Char) :
    readField (f.layout.source ++ f.conversion.letter :: rest) = .ok (f, rest) := by
  have width : ¬Layout.limit < f.layout.width := Nat.not_lt.mpr normal.1
  have precision : ¬Layout.limit < f.layout.precision.getD 0 := by
    cases given : f.layout.precision with
    | none => exact Nat.not_lt.mpr (Nat.zero_le _)
    | some n => exact Nat.not_lt.mpr (normal.2 n given)
  simp only [readField, Layout.read_source _ rest (Layout.ends_letter f.conversion), width,
    precision, if_false, Conversion.ofChar?_letter]

end Template

@[simp] theorem Token.ofLetter?_binary (op : BinaryOp) :
    ofLetter? op.letter = some (.action (.binary op)) := by
  cases op <;> rfl

@[simp] theorem Token.ofLetter?_unary (op : UnaryOp) :
    ofLetter? op.letter = some (.action (.unary op)) := by
  cases op <;> rfl

namespace Template

theorem Reader.action_ok {α : Type} {r : Reader α} {cs rest : List Char} {a : α}
    (read : r cs = .ok (a, rest)) (f : α → Action) :
    r.action f cs = .ok (.token (.action (f a)), rest) := by
  simp [Reader.action, read, Except.map]

theorem readDirective_source {a : Action} (normal : a.Normal) (rest : List Char) :
    readDirective (a.source ++ rest) = .ok (.token (.action a), rest) := by
  cases a with
  | parameter index => exact Reader.action_ok (readParameter_source normal rest) id
  | integer n =>
    simp only [Action.source, List.cons_append, List.append_assoc]
    exact Reader.action_ok (readInteger_decimal normal rest) .integer
  | set v => exact Reader.action_ok (readVariable_letter v rest) .set
  | get v => exact Reader.action_ok (readVariable_letter v rest) .get
  | length => rfl
  | binary op => simp [Action.source, readDirective]
  | unary op => simp [Action.source, readDirective]
  | print f =>
    simp only [Action.source, Field.source, List.cons_append, List.append_assoc]
    exact Reader.action_ok (readField_source normal rest) .print

theorem readPadding?_source {body : List Char} (inside : ∀ c ∈ body, isPaddingChar c)
    (rest : List Char) :
    readPadding? ('<' :: (body ++ '>' :: rest)) =
      some (String.ofList ('$' :: '<' :: body ++ ['>']), rest) := by
  have stop : isPaddingChar '>' = false := by decide
  simp [readPadding?, List.takeWhile_append_of_pos inside, List.dropWhile_append_of_pos inside, stop]

theorem readLexeme_plain {c : Char} (percent : c ≠ '%') (others : ¬(c = '\\' ∨ c = '^' ∨ c = '$'))
    (rest : List Char) : readLexeme c rest = .ok (.char c, rest) := by
  unfold readLexeme
  split
  · exact absurd rfl percent
  · exact absurd (.inl rfl) others
  · exact absurd (.inr (.inl rfl)) others
  · exact absurd (.inr (.inr rfl)) others
  · rfl

/-- The characters are read as these pieces, and reading goes on behind them, whatever is there. -/
def ReadAs (cs : List Char) (xs : List Lexeme) : Prop :=
  ∀ rest, lexemes (cs ++ rest) = (lexemes rest).map (xs ++ ·)

namespace ReadAs

theorem nil : ReadAs [] [] := by
  intro rest
  cases read : lexemes rest <;> simp [Except.map, read]

theorem append {cs ds : List Char} {xs ys : List Lexeme} (first : ReadAs cs xs)
    (second : ReadAs ds ys) : ReadAs (cs ++ ds) (xs ++ ys) := by
  intro rest
  rw [List.append_assoc, first, second]
  cases lexemes rest <;> simp [Except.map]

theorem flatMap {α : Type} {source : α → List Char} {pieces : α → List Lexeme} {as : List α}
    (each : ∀ a ∈ as, ReadAs (source a) (pieces a)) :
    ReadAs (as.flatMap source) (as.flatMap pieces) := by
  induction as with
  | nil => exact nil
  | cons a as ih =>
    rw [List.flatMap_cons, List.flatMap_cons]
    exact (each a List.mem_cons_self).append (ih fun b member => each b (List.mem_cons_of_mem a member))

theorem single {c : Char} {cs : List Char} {x : Lexeme}
    (read : ∀ rest, readLexeme c (cs ++ rest) = .ok (x, rest)) : ReadAs (c :: cs) [x] := by
  intro rest
  rw [List.cons_append, lexemes]
  split
  · rename_i cause failed
    rw [read] at failed
    cases failed
  · rename_i y left found
    rw [read] at found
    cases found
    rfl

end ReadAs

theorem readAs_literalSource (c : Char) : ReadAs (literalSource c) [.char c] := by
  unfold literalSource
  split
  · rename_i percent
    subst percent
    exact .single fun _ => rfl
  · rename_i percent
    split
    · rename_i others
      rcases others with rfl | rfl | rfl <;> exact .single fun _ => rfl
    · rename_i others
      exact .single (readLexeme_plain percent others)

theorem readAs_literal (text : String) :
    ReadAs (Token.literal text).source (Token.literal text).pieces := by
  rw [Token.source, Token.pieces, List.map_eq_flatMap]
  exact .flatMap fun c _ => readAs_literalSource c

theorem readAs_action {a : Action} (normal : a.Normal) :
    ReadAs (Token.action a).source [.token (.action a)] :=
  .single (readDirective_source normal)

theorem readAs_token {t : Token} (normal : t.Normal) : ReadAs t.source t.pieces := by
  cases t with
  | literal text => exact readAs_literal text
  | padding text =>
    obtain ⟨body, inside, rfl⟩ := normal
    have printed : (Token.padding (String.ofList ('$' :: '<' :: body ++ ['>']))).source =
        '$' :: '<' :: (body ++ ['>']) := by
      simp [Token.source]
    rw [printed]
    refine .single fun rest => ?_
    simp [readLexeme, readPadding?_source inside rest]
  | action a => exact readAs_action normal
  | increment => exact .single fun _ => rfl
  | beginIf => exact .single fun _ => rfl
  | thenArm => exact .single fun _ => rfl
  | elseArm => exact .single fun _ => rfl
  | endIf => exact .single fun _ => rfl

theorem readAs_source {ts : List Token} (normal : ∀ t ∈ ts, t.Normal) :
    ReadAs (ts.flatMap Token.source) (ts.flatMap Token.pieces) :=
  .flatMap fun t member => readAs_token (normal t member)

end Template

end TermTemplate
