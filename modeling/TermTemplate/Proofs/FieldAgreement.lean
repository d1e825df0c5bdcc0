import TermTemplate.Method
import TermTemplate.Proofs.FieldReaders
import TermTemplate.Proofs.ViablePrefix

/-! Templates and format strings read fields alike. Both have a field exactly where one is written,
and they differ only in numbers above the limit, which the one refuses and the other lowers. -/
namespace TermTemplate

namespace Layout

def withFlags (l : Layout) (flags : List Char) : Layout :=
  { l with
    alternate := l.alternate || flags.contains '#'
    left := l.left || flags.contains '-'
    sign := l.sign || flags.contains '+'
    space := l.space || flags.contains ' ' }

theorem addFlag?_eq_some {l m : Layout} {c : Char} :
    l.addFlag? c = some m ↔ c ∈ ['-', '+', '#', ' '] ∧ m = l.withFlags [c] := by
  constructor
  · intro flag
    unfold addFlag? at flag
    split at flag <;> cases flag <;> simp [withFlags]
  · rintro ⟨member, rfl⟩
    simp only [List.mem_cons, List.not_mem_nil, or_false] at member
    rcases member with rfl | rfl | rfl | rfl <;> simp [addFlag?, withFlags]

theorem withFlags_cons (l : Layout) (c : Char) (flags : List Char) :
    l.withFlags (c :: flags) = (l.withFlags [c]).withFlags flags := by
  simp [withFlags, Bool.or_assoc]

theorem readFlags_append (l : Layout) {flags t : List Char}
    (inside : ∀ c ∈ flags, c ∈ ['-', '+', '#', ' '])
    (stop : ∀ c ∈ t.head?, ∀ l : Layout, l.addFlag? c = none) :
    l.readFlags (flags ++ t) = (l.withFlags flags, t) := by
  induction flags generalizing l with
  | nil =>
    have same : l.withFlags [] = l := by simp [withFlags]
    rw [List.nil_append, same]
    cases t with
    | nil => rfl
    | cons c t => simp only [readFlags, stop c rfl]
  | cons c flags ih =>
    obtain ⟨first, rest⟩ := List.forall_mem_cons.mp inside
    simp only [List.cons_append, readFlags, addFlag?_eq_some.mpr ⟨first, rfl⟩]
    rw [ih _ rest, ← withFlags_cons]

theorem readFlags_split (l : Layout) (cs : List Char) :
    ∃ flags, cs = flags ++ (l.readFlags cs).2 ∧ (∀ c ∈ flags, c ∈ ['-', '+', '#', ' ']) ∧
      (l.readFlags cs).1 = l.withFlags flags := by
  have same (l : Layout) : l.withFlags [] = l := by simp [withFlags]
  induction cs generalizing l with
  | nil => exact ⟨[], rfl, by simp, (same l).symm⟩
  | cons c cs ih =>
    cases flag : l.addFlag? c with
    | none =>
      simp only [readFlags, flag]
      exact ⟨[], rfl, by simp, (same l).symm⟩
    | some m =>
      obtain ⟨member, rfl⟩ := addFlag?_eq_some.mp flag
      obtain ⟨flags, split, inside, read⟩ := ih (l.withFlags [c])
      simp only [readFlags, flag]
      refine ⟨c :: flags, congrArg (c :: ·) split, List.forall_mem_cons.mpr ⟨member, inside⟩, ?_⟩
      rw [read, ← withFlags_cons]

theorem readPrecision_split (cs : List Char) :
    ∃ digits : Option (List Char), cs = digits.elim [] ('.' :: ·) ++ (readPrecision cs).2 ∧
      (∀ ds ∈ digits, ∀ c ∈ ds, c.isDigit) ∧
      (readPrecision cs).1 = digits.map fun ds => Nat.ofDigitChars 10 ds 0 := by
  by_cases point : cs.head? = some '.'
  · obtain ⟨behind, rfl⟩ := List.head?_eq_some_iff.mp point
    obtain ⟨ds, split, digits, number, _⟩ := Text.readNat_split behind
    exact ⟨some ds, congrArg ('.' :: ·) split, by simpa using digits, congrArg some number⟩
  · rw [readPrecision_of_head? point]
    exact ⟨none, rfl, by simp, rfl⟩

end Layout

namespace WrittenField

theorem readPrecision_chars (w : WrittenField) (rest : List Char) :
    Layout.readPrecision (w.precisionChars ++ w.conversion.letter :: rest) =
      (w.layout.precision, w.conversion.letter :: rest) := by
  have ends := Layout.ends_letter w.conversion
  cases given : w.precision with
  | none =>
    have left : Layout.readPrecision (w.conversion.letter :: rest) =
        (none, w.conversion.letter :: rest) :=
      Layout.readPrecision_of_head? (by simpa using ends.point)
    simpa [precisionChars, layout, given] using left
  | some ds =>
    have read := Text.readNat_append (t := w.conversion.letter :: rest)
      (w.precision_digits ds given) (by simpa using ends.digit)
    simp [precisionChars, layout, given, Layout.readPrecision, read]

theorem head?_precisionChars (w : WrittenField) (rest : List Char) :
    ∀ c ∈ (w.precisionChars ++ w.conversion.letter :: rest).head?,
      c = '.' ∨ c = w.conversion.letter := by
  cases given : w.precision <;> simp [precisionChars, given]

theorem readNat_chars (w : WrittenField) (rest : List Char) :
    Text.readNat (w.width ++ (w.precisionChars ++ w.conversion.letter :: rest)) =
      (w.layout.width, w.precisionChars ++ w.conversion.letter :: rest) := by
  refine Text.readNat_append w.width_digits fun c member => ?_
  rcases head?_precisionChars w rest c member with rfl | rfl
  · rfl
  · exact (Layout.ends_letter w.conversion).digit

theorem readFlags_chars (w : WrittenField) (rest : List Char) :
    Layout.readFlags {} (w.chars ++ rest) =
      (Layout.withFlags {} w.flags,
        w.width ++ (w.precisionChars ++ w.conversion.letter :: rest)) := by
  have behind : w.chars ++ rest =
      w.flags ++ (w.width ++ (w.precisionChars ++ w.conversion.letter :: rest)) := by
    simp [chars]
  rw [behind]
  refine Layout.readFlags_append {} w.flags_mem fun c member l => ?_
  cases width : w.width with
  | cons d ds =>
    have digit : d.isDigit := w.width_digits d (by simp [width])
    obtain rfl : d = c := by simpa [width] using member
    exact Layout.addFlag?_of_isDigit l digit
  | nil =>
    rw [width, List.nil_append] at member
    rcases head?_precisionChars w rest c member with rfl | rfl
    · rfl
    · exact (Layout.ends_letter w.conversion).flag l

theorem read_chars (w : WrittenField) (rest : List Char) :
    Layout.read (w.chars ++ rest) = (w.layout, w.conversion.letter :: rest) := by
  simp only [Layout.read, readFlags_chars, readNat_chars, readPrecision_chars]
  simp [layout, Layout.withFlags]

/-- Only written fields are read up to a letter. -/
theorem exists_chars {r rest : List Char} {l : Layout} {conversion : Conversion}
    (read : Layout.read r = (l, conversion.letter :: rest)) :
    ∃ w : WrittenField, r = w.chars ++ rest ∧ w.layout = l ∧ w.conversion = conversion := by
  obtain ⟨flags, splitFlags, inside, readFlags⟩ := Layout.readFlags_split {} r
  obtain ⟨width, splitWidth, digits, readWidth, _⟩ := Text.readNat_split (Layout.readFlags {} r).2
  obtain ⟨precision, splitPrecision, more, readPrecision⟩ :=
    Layout.readPrecision_split (Text.readNat (Layout.readFlags {} r).2).2
  simp only [Layout.read, Prod.mk.injEq] at read
  obtain ⟨rfl, left⟩ := read
  refine ⟨⟨flags, width, precision, conversion, inside, digits, more⟩, ?_, ?_, rfl⟩
  · rw [splitFlags, splitWidth, splitPrecision, left]
    simp [chars, precisionChars]
  · rw [readFlags, readWidth, readPrecision]
    simp [layout, Layout.withFlags]

end WrittenField

namespace FormatString

/-- A format string has a field exactly where one is written. -/
theorem readField?_eq_some {r rest : List Char} {f : Field} :
    readField? r = some (f, rest) ↔
      ∃ w : WrittenField, r = w.chars ++ rest ∧ f = ⟨w.conversion, w.layout.capped⟩ := by
  constructor
  · intro found
    unfold readField? at found
    split at found
    · rename_i l c left read
      obtain ⟨conversion, letter, same⟩ := Option.map_eq_some_iff.mp found
      cases same
      rw [← Conversion.letter_of_ofChar? letter] at read
      obtain ⟨w, split, rfl, rfl⟩ := WrittenField.exists_chars read
      exact ⟨w, split, rfl⟩
    · cases found
  · rintro ⟨w, rfl, rfl⟩
    simp [readField?, WrittenField.read_chars]

end FormatString

namespace Template

theorem capped_of_le {l : Layout} (width : ¬Layout.limit < l.width)
    (precision : ¬Layout.limit < l.precision.getD 0) : l.capped = l := by
  obtain ⟨w, p, alternate, left, sign, space⟩ := l
  simp only [Nat.not_lt] at width precision
  cases p <;> simp_all [Layout.capped]

/-- Behind a colon a template has a field where one is written, if its numbers are within the
limit. -/
theorem readDirective_chars (w : WrittenField) (rest : List Char) :
    readDirective (':' :: (w.chars ++ rest)) =
      if Layout.limit < w.layout.width then .error .widthOverflow
      else if Layout.limit < w.layout.precision.getD 0 then .error .precisionOverflow
      else .ok (.token (.action (.print ⟨w.conversion, w.layout.capped⟩)), rest) := by
  have read : readDirective (':' :: (w.chars ++ rest)) =
      readField.action .print (w.chars ++ rest) := rfl
  rw [read, Reader.action, readField, WrittenField.read_chars]
  by_cases wide : Layout.limit < w.layout.width
  · simp [wide, Except.map]
  · by_cases long : Layout.limit < w.layout.precision.getD 0
    · simp [wide, long, Except.map]
    · simp [wide, long, capped_of_le wide long, Except.map]

theorem readDirective_of_none_written {r : List Char} (missing : FormatString.readField? r = none) :
    ∃ cause, readDirective (':' :: r) = .error cause := by
  have read : readDirective (':' :: r) = readField.action .print r := rfl
  cases found : readField r with
  | error cause => exact ⟨cause, by simp [read, Reader.action, found, Except.map]⟩
  | ok pair =>
    rw [readField_eq_closing] at found
    obtain ⟨_, c, left, closed⟩ := Reader.closing_eq_ok.mp found
    cases letter : Conversion.ofChar? c with
    | none => simp [closeField, letter] at closed
    | some conversion =>
      rw [FormatString.readField?, left] at missing
      simp [letter] at missing

theorem mem_digits {c : Char} (digit : c.isDigit) :
    c ∈ ['0', '1', '2', '3', '4', '5', '6', '7', '8', '9'] := by
  have bounds := Text.bounds_of_isDigit digit
  have all : ∀ i : Fin 10, Char.ofNat (48 + i) ∈
      ['0', '1', '2', '3', '4', '5', '6', '7', '8', '9'] := by decide
  have member := all ⟨c.toNat - 48, by omega⟩
  rwa [show 48 + (c.toNat - 48) = c.toNat by omega, Char.ofNat_toNat] at member

theorem readDirective_of_startsLayout {c : Char} (starts : startsLayout c) (cs : List Char) :
    readDirective (c :: cs) = readDirective (':' :: c :: cs) := by
  simp only [startsLayout, Bool.or_eq_true, beq_iff_eq] at starts
  rcases starts with ((rfl | rfl) | rfl) | digit
  · rfl
  · rfl
  · rfl
  · have member := mem_digits digit
    simp only [List.mem_cons, List.not_mem_nil, or_false] at member
    rcases member with rfl | rfl | rfl | rfl | rfl | rfl | rfl | rfl | rfl | rfl <;> rfl

/-- A field that starts with no sign can be written without the colon. -/
theorem readDirective_without_colon (w : WrittenField) (rest : List Char)
    (minus : (w.chars ++ rest).head? ≠ some '-') (plus : (w.chars ++ rest).head? ≠ some '+') :
    readDirective (w.chars ++ rest) = readDirective (':' :: (w.chars ++ rest)) := by
  obtain ⟨flags, width, precision, conversion, inside, digits, _⟩ := w
  cases flags with
  | cons c flags =>
    apply readDirective_of_startsLayout
    have flag : c ∈ ['-', '+', '#', ' '] := inside c (by simp)
    simp only [List.mem_cons, List.not_mem_nil, or_false] at flag
    rcases flag with rfl | rfl | rfl | rfl
    · exact absurd rfl minus
    · exact absurd rfl plus
    · rfl
    · rfl
  | nil =>
    cases width with
    | cons d width =>
      apply readDirective_of_startsLayout
      simp [startsLayout, digits d (by simp)]
    | nil =>
      cases precision with
      | some ds => exact readDirective_of_startsLayout rfl _
      | none => cases conversion <;> rfl

theorem tokens_of_readLexeme_error {c : Char} {cs : List Char} {cause : Cause}
    (failed : readLexeme c cs = .error cause) :
    tokens (String.ofList (c :: cs)) = .error ⟨cause, 0⟩ := by
  simp [tokens, lexemes_cons_error failed]

theorem tokens_parameter_field {body : String} {f : Field}
    (read : readDirective (':' :: body.toList) = .ok (.token (.action (.print f)), [])) :
    tokens ("%p1%:" ++ body) = .ok [.action (.parameter 0), .action (.print f)] := by
  have parameter : readLexeme '%' ('p' :: '1' :: '%' :: ':' :: body.toList) =
      .ok (.token (.action (.parameter 0)), '%' :: ':' :: body.toList) := rfl
  have field : readLexeme '%' (':' :: body.toList) = .ok (.token (.action (.print f)), []) := read
  have whole : lexemes ("%p1%:" ++ body).toList =
      .ok [.token (.action (.parameter 0)), .token (.action (.print f))] := by
    rw [String.toList_append]
    exact (lexemes_cons parameter).trans (by rw [lexemes_cons field, lexemes]; rfl)
  rw [tokens, whole]
  rfl

end Template

theorem Parameters.get_zero (v : Value) : Parameters.get ⟨[v], false⟩ 0 = v := by
  cases v <;> rfl

theorem Method.call_field {m : Method} {options : Options} {body : String} {f : Field}
    (read : Template.readDirective (':' :: body.toList) = .ok (.token (.action (.print f)), []))
    (compiled : compile ("%p1%:" ++ body) options = .ok m) (v : Value) :
    m.call [v] = f.render (some v) := by
  rw [compile, Template.tokens_parameter_field read] at compiled
  cases compiled
  simp [call, callWith, Program.execute, Program.ofTokens, Fragment.ofTokens, Fragment.cons,
    Fragment.ending, Code.run, Action.apply, Parameters.get_zero, State.push, State.drop, State.write]

namespace FormatString

theorem expandChars_field {cs rest : List Char} {f : Field} (found : readField? cs = some (f, rest))
    (args : List Value) :
    expandChars ('%' :: cs) args = f.renderChars args.head? ++ expandChars rest args.tail := by
  have single : ∀ ds, cs ≠ '%' :: ds := by
    rintro ds rfl
    cases found
  rw [expandChars.eq_3 _ _ single]
  split
  · rename_i other
    rw [found] at other
    cases other
    rfl
  · rename_i missing
    rw [found] at missing
    cases missing

theorem expand_field {body : String} {f : Field} (found : readField? body.toList = some (f, []))
    (v : Value) : expand ("%" ++ body) [v] = f.render (some v) := by
  have chars : ("%" ++ body).toList = '%' :: body.toList := by simp
  rw [expand, chars, expandChars_field found]
  simp [expandChars, Field.render]

end FormatString

/-- What a template accepts behind `%:` is a field of a format string, within the limit. -/
theorem Template.readField?_of_accepted {r rest : List Char} {x : Lexeme}
    (accepted : readDirective (':' :: r) = .ok (x, rest)) :
    ∃ f, FormatString.readField? r = some (f, rest) ∧ x = .token (.action (.print f)) := by
  cases found : FormatString.readField? r with
  | none =>
    obtain ⟨cause, refused⟩ := readDirective_of_none_written found
    rw [refused] at accepted
    cases accepted
  | some pair =>
    obtain ⟨f, left⟩ := pair
    obtain ⟨w, rfl, rfl⟩ := FormatString.readField?_eq_some.mp found
    rw [readDirective_chars] at accepted
    split at accepted
    · cases accepted
    · split at accepted
      · cases accepted
      · cases accepted
        exact ⟨_, rfl, rfl⟩

/-- Where a format string has a field, a template has the same one behind `%:`, unless it refuses a
width or a precision above the limit, which a format string lowers; elsewhere a template is refused.
A field that is a whole template or format string therefore prints the same. -/
theorem fields_read_alike :
    (∀ cs, Template.scanField .flags {} cs = Template.readField cs) ∧
    (∀ cs, FormatString.readSaturatingField? cs = FormatString.readField? cs) ∧
    (∀ r f rest, FormatString.readField? r = some (f, rest) →
      ∃ w : WrittenField, r = w.chars ++ rest ∧ f = ⟨w.conversion, w.layout.capped⟩ ∧
        Template.readLexeme '%' (':' :: r) =
          (if Layout.limit < w.layout.width then .error .widthOverflow
          else if Layout.limit < w.layout.precision.getD 0 then .error .precisionOverflow
          else .ok (.token (.action (.print f)), rest)) ∧
        (r.head? ≠ some '-' → r.head? ≠ some '+' →
          Template.readLexeme '%' r = Template.readLexeme '%' (':' :: r))) ∧
    (∀ r, FormatString.readField? r = none →
      ∃ cause, Template.readLexeme '%' (':' :: r) = .error cause) ∧
    (∀ r cause, Template.readLexeme '%' r = .error cause →
      Template.tokens (String.ofList ('%' :: r)) = .error ⟨cause, 0⟩) ∧
    (∀ (body : String) x, Template.readLexeme '%' (':' :: body.toList) = .ok (x, []) →
      ∀ (options : Options) (v : Value), ∃ m, Method.compile ("%p1%:" ++ body) options = .ok m ∧
        m.call [v] = FormatString.expand ("%" ++ body) [v]) := by
  refine ⟨Template.scanField_eq_readField, FormatString.readSaturatingField?_eq, ?_, ?_, ?_, ?_⟩
  · intro r f rest found
    obtain ⟨w, rfl, rfl⟩ := FormatString.readField?_eq_some.mp found
    exact ⟨w, rfl, rfl, Template.readDirective_chars w rest,
      Template.readDirective_without_colon w rest⟩
  · exact fun r missing => Template.readDirective_of_none_written missing
  · exact fun r cause failed => Template.tokens_of_readLexeme_error failed
  · intro body x accepted options v
    obtain ⟨f, found, rfl⟩ := Template.readField?_of_accepted accepted
    have compiled : ∃ m, Method.compile ("%p1%:" ++ body) options = .ok m :=
      ⟨_, by rw [Method.compile, Template.tokens_parameter_field accepted]; rfl⟩
    obtain ⟨m, compiled⟩ := compiled
    refine ⟨m, compiled, ?_⟩
    rw [Method.call_field accepted compiled, FormatString.expand_field found]

/-- A field that both read, and one whose precision a template refuses. -/
theorem fields_read_alike_signed :
    (∃ m, Method.compile ("%p1%:" ++ "-5.2s") = .ok m ∧
      m.call [.text "abc"] = FormatString.expand ("%" ++ "-5.2s") [.text "abc"]) ∧
    Template.tokens (String.ofList ('%' :: ":.70000x".toList)) = .error ⟨.precisionOverflow, 0⟩ := by
  obtain ⟨_, _, _, _, refused, printed⟩ := fields_read_alike
  exact ⟨printed "-5.2s"
      (.token (.action (.print ⟨.string, { width := 5, precision := some 2, left := true }⟩)))
      (by decide +kernel) {} (.text "abc"),
    refused ":.70000x".toList .precisionOverflow (by decide +kernel)⟩

end TermTemplate
