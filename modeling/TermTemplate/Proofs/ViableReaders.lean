import TermTemplate.Proofs.Delimited

/-! Readers that can refuse what they find, and what they have seen decides: nothing that follows can
change an answer that they have given, and an answer that was missing can still be given. -/
namespace TermTemplate

namespace Template

/-- What the reader has seen decides. What it accepts does not depend on what it leaves, what it
refuses is refused whatever follows, and where the end came too soon there is a way to go on. -/
structure Reader.Viable {α : Type} (r : Reader α) : Prop where
  accepted : ∀ {cs a rest}, r cs = .ok (a, rest) →
    ∃ used, cs = used ++ rest ∧ ∀ t, r (used ++ t) = .ok (a, t)
  refused : ∀ {cs cause}, r cs = .error cause → cause ≠ .unexpectedEnd →
    ∀ t, r (cs ++ t) = .error cause
  cut : ∀ {cs}, r cs = .error .unexpectedEnd → ∃ t a, r (cs ++ t) = .ok (a, [])

namespace Reader.Viable

theorem action {α : Type} {r : Reader α} (viable : r.Viable) (f : α → Action) :
    (r.action f).Viable := by
  have error {cs : List Char} {cause : Cause} (refused : r.action f cs = .error cause) :
      r cs = .error cause := by
    unfold Reader.action at refused
    cases read : r cs with
    | ok found => simp [read, Except.map] at refused
    | error other => simpa [read, Except.map] using refused
  constructor
  · intro cs x rest read
    unfold Reader.action at read
    cases found : r cs with
    | error cause => simp [found, Except.map] at read
    | ok pair =>
      obtain ⟨used, split, same⟩ := viable.accepted found
      simp only [found, Except.map, Except.ok.injEq, Prod.mk.injEq] at read
      obtain ⟨rfl, rfl⟩ := read
      exact ⟨used, split, fun t => Reader.action_ok (same t) f⟩
  · intro cs cause refused other t
    simp [Reader.action, viable.refused (error refused) other t, Except.map]
  · intro cs refused
    obtain ⟨t, a, read⟩ := viable.cut (error refused)
    exact ⟨t, _, Reader.action_ok read f⟩

/-- A reader that cannot do without a character goes on from any first one. -/
theorem cons {α : Type} {r : Reader α} (viable : r.Viable) (empty : r [] = .error .unexpectedEnd)
    (c : Char) : Reader.Viable fun cs => r (c :: cs) := by
  constructor
  · intro cs a rest read
    obtain ⟨used, split, same⟩ := viable.accepted read
    cases used with
    | nil =>
      have nothing := same []
      rw [List.nil_append, empty] at nothing
      cases nothing
    | cons d used =>
      obtain ⟨rfl, behind⟩ := List.cons.inj split
      exact ⟨used, behind, same⟩
  · intro cs cause refused other t
    exact viable.refused refused other t
  · intro cs refused
    exact viable.cut refused

theorem of_cons {α : Type} {r : Reader α} (empty : r [] = .error .unexpectedEnd)
    (each : ∀ c, Reader.Viable fun cs => r (c :: cs)) {t : List Char} {a : α}
    (fits : r t = .ok (a, [])) : r.Viable := by
  constructor
  · intro cs a rest read
    cases cs with
    | nil => rw [empty] at read; cases read
    | cons c cs =>
      obtain ⟨used, split, same⟩ := (each c).accepted read
      exact ⟨c :: used, congrArg (c :: ·) split, same⟩
  · intro cs cause refused other t
    cases cs with
    | nil => rw [empty] at refused; cases refused; exact absurd rfl other
    | cons c cs => exact (each c).refused refused other t
  · intro cs refused
    cases cs with
    | nil => exact ⟨t, a, fits⟩
    | cons c cs => exact (each c).cut refused

end Reader.Viable

/-- A reader in three parts: it reads up to an end, judges what it has, and takes one character that
closes it. -/
def Reader.closing {α β : Type} (f : List Char → α × List Char) (judge : α → Except Cause Unit)
    (close : α → Char → Except Cause β) : Reader β := fun cs =>
  match judge (f cs).1, (f cs).2 with
  | .error cause, _ => .error cause
  | .ok _, [] => .error .unexpectedEnd
  | .ok _, c :: rest => (close (f cs).1 c).map (·, rest)

section

variable {α β : Type} {f : List Char → α × List Char} {judge : α → Except Cause Unit}
  {close : α → Char → Except Cause β} {cs : List Char}

theorem Reader.closing_eq_ok {b : β} {rest : List Char} :
    closing f judge close cs = .ok (b, rest) ↔
      judge (f cs).1 = .ok () ∧ ∃ c, f cs = ((f cs).1, c :: rest) ∧ close (f cs).1 c = .ok b := by
  rw [closing]
  generalize f cs = found
  obtain ⟨a, left⟩ := found
  cases judged : judge a with
  | error cause => simp
  | ok _ =>
    cases left with
    | nil => simp
    | cons c behind => cases closed : close a c <;> simp [closed, Except.map, and_comm]

theorem Reader.closing_eq_error {cause : Cause} :
    closing f judge close cs = .error cause ↔
      judge (f cs).1 = .error cause ∨ judge (f cs).1 = .ok () ∧
        (f cs = ((f cs).1, []) ∧ cause = .unexpectedEnd ∨
          ∃ c rest, f cs = ((f cs).1, c :: rest) ∧ close (f cs).1 c = .error cause) := by
  rw [closing]
  generalize f cs = found
  obtain ⟨a, left⟩ := found
  cases judged : judge a with
  | error cause => simp
  | ok _ =>
    cases left with
    | nil => simp [eq_comm]
    | cons c behind => cases closed : close a c <;> simp [closed, Except.map]

/-- It is enough that a judgement against what was read stands when more is read, and that there is
a character to close whatever was judged well. -/
theorem Reader.viable_closing {ends : Char → Prop} (delimited : Text.Delimited f ends) (good : Char)
    (stands : ∀ {cs cause}, judge (f cs).1 = .error cause →
      cause ≠ .unexpectedEnd ∧ ∀ t, judge (f (cs ++ t)).1 = .error cause)
    (blamed : ∀ a c, close a c ≠ .error .unexpectedEnd) (ended : ends good)
    (fits : ∀ a, ∃ b, close a good = .ok b) : (closing f judge close).Viable := by
  constructor
  · intro cs b rest read
    obtain ⟨judged, c, left, closed⟩ := closing_eq_ok.mp read
    obtain ⟨used, split, same⟩ := delimited cs
    rw [left] at split same
    refine ⟨used ++ [c], by simpa using split, fun t => closing_eq_ok.mpr ?_⟩
    have again : f (used ++ [c] ++ t) = ((f cs).1, c :: t) := by
      rw [List.append_assoc]
      exact same _ (.inl rfl)
    rw [again]
    exact ⟨judged, c, rfl, closed⟩
  · intro cs cause refused other t
    apply closing_eq_error.mpr
    rcases closing_eq_error.mp refused with judged | ⟨judged, ⟨_, rfl⟩ | ⟨c, rest, left, closed⟩⟩
    · exact .inl ((stands judged).2 t)
    · exact absurd rfl other
    · rw [delimited.append_of_cons left t]
      exact .inr ⟨judged, .inr ⟨c, _, rfl, closed⟩⟩
  · intro cs refused
    rcases closing_eq_error.mp refused with judged | ⟨judged, ⟨left, _⟩ | ⟨c, rest, left, closed⟩⟩
    · exact absurd rfl (stands judged).1
    · obtain ⟨b, closed⟩ := fits (f cs).1
      refine ⟨[good], b, closing_eq_ok.mpr ?_⟩
      rw [delimited.append_of_nil left ended []]
      exact ⟨judged, good, rfl, closed⟩
    · exact absurd closed (blamed _ _)

end

theorem viable_readParameter : readParameter.Viable := by
  have read : readParameter = .closing (fun cs => ((), cs)) (fun _ => .ok ()) fun _ c =>
      if '1' ≤ c ∧ c ≤ '9' then .ok (.parameter (c.toNat - '1'.toNat))
      else .error (.invalidParameter c) := by
    funext cs
    cases cs with
    | nil => rfl
    | cons c cs =>
      simp only [readParameter, Reader.closing]
      split <;> rfl
  rw [read]
  refine Reader.viable_closing (Text.delimited_none () fun _ => True) '1' (by simp) ?_ trivial
    fun _ => ⟨_, rfl⟩
  intro _ c
  split <;> simp

theorem viable_readVariable : readVariable.Viable := by
  have read : readVariable = .closing (fun cs => ((), cs)) (fun _ => .ok ()) fun _ c =>
      (Variable.ofLetter? c).elim (.error (.invalidVariable c)) .ok := by
    funext cs
    cases cs with
    | nil => rfl
    | cons c cs =>
      simp only [readVariable, Reader.closing]
      cases Variable.ofLetter? c <;> rfl
  rw [read]
  refine Reader.viable_closing (Text.delimited_none () fun _ => True) 'a' (by simp) ?_ trivial
    fun _ => ⟨_, rfl⟩
  intro _ c
  cases Variable.ofLetter? c <;> simp

def closeQuote : Char × List Char → Except Cause (Int64 × List Char)
  | (d, '\'' :: rest) => .ok (Int64.ofNat d.toNat, rest)
  | (_, _ :: _) => .error .malformedCharacter
  | (_, []) => .error .unexpectedEnd

theorem readCharacter_cons (c : Char) (cs : List Char) :
    readCharacter (c :: cs) = closeQuote (if c = '\\' then readEscape cs else (c, cs)) := rfl

theorem viable_closeQuote {f : List Char → Char × List Char}
    (delimited : Text.Delimited f fun d => isOctalDigit d = false) :
    Reader.Viable fun cs => closeQuote (f cs) := by
  have closing : (fun cs => closeQuote (f cs)) = Reader.closing f (fun _ => .ok ()) fun d c =>
      if c = '\'' then .ok (Int64.ofNat d.toNat) else .error .malformedCharacter := by
    funext cs
    rw [Reader.closing]
    generalize f cs = found
    obtain ⟨d, left⟩ := found
    cases left with
    | nil => rfl
    | cons c rest =>
      by_cases quote : c = '\''
      · subst quote
        rfl
      · simp [closeQuote, quote, Except.map]
  rw [closing]
  refine Reader.viable_closing delimited '\'' (by simp) ?_ rfl fun _ => ⟨_, rfl⟩
  intro _ c
  split <;> simp

theorem viable_readCharacter : readCharacter.Viable := by
  refine .of_cons rfl (fun c => ?_) (t := ['a', '\'']) rfl
  by_cases backslash : c = '\\'
  · subst backslash
    exact .of_cons rfl (fun d => viable_closeQuote (delimited_readEscape d)) (t := ['n', '\'']) rfl
  · simp only [readCharacter_cons, if_neg backslash]
    exact viable_closeQuote (Text.delimited_none c _)

theorem viable_readMagnitude (sign : Int) : (readMagnitude sign).Viable := by
  have closing : readMagnitude sign = .closing Text.readNat
      (fun n => if greatestInteger < n then .error .integerOverflow else .ok ())
      fun n c => if c = '\x7d' then .ok (Int64.ofInt (sign * n)) else .error .malformedInteger := by
    funext cs
    rw [readMagnitude, Reader.closing]
    generalize Text.readNat cs = found
    obtain ⟨n, left⟩ := found
    by_cases great : greatestInteger < n
    · simp [great]
    · cases left with
      | nil => simp [great]
      | cons c rest =>
        by_cases brace : c = '\x7d'
        · subst brace
          simp [great, Except.map]
        · simp [great, brace, Except.map]
  rw [closing]
  refine Reader.viable_closing Text.delimited_readNat '\x7d' ?_ ?_ rfl fun _ => ⟨_, rfl⟩
  · intro cs cause judged
    by_cases great : greatestInteger < (Text.readNat cs).1
    · rw [if_pos great] at judged
      cases judged
      exact ⟨by simp, fun t => if_pos (Nat.lt_of_lt_of_le great (Text.readNat_le_append cs t))⟩
    · rw [if_neg great] at judged
      cases judged
  · intro _ c
    split <;> simp

theorem viable_readInteger : readInteger.Viable := by
  refine .of_cons rfl (fun c => ?_) (t := ['\x7d']) rfl
  by_cases minus : c = '-'
  · subst minus
    exact viable_readMagnitude (-1)
  · have unsigned : (fun cs => readInteger (c :: cs)) = fun cs => readMagnitude 1 (c :: cs) := by
      funext cs
      unfold readInteger
      split
      · rename_i same
        exact absurd (List.cons.inj same).1 minus
      · rfl
    rw [unsigned]
    exact (viable_readMagnitude 1).cons rfl c

/-- The judgement on a layout, the width before the precision. -/
def judgeLayout (l : Layout) : Except Cause Unit :=
  if Layout.limit < l.width then .error .widthOverflow
  else if Layout.limit < l.precision.getD 0 then .error .precisionOverflow
  else .ok ()

theorem judgeLayout_append {cs : List Char} {cause : Cause}
    (judged : judgeLayout (Layout.read cs).1 = .error cause) (t : List Char) :
    judgeLayout (Layout.read (cs ++ t)).1 = .error cause := by
  by_cases wide : Layout.limit < (Layout.read cs).1.width
  · rw [judgeLayout, if_pos wide] at judged
    rw [judgeLayout, if_pos (Nat.lt_of_lt_of_le wide (Layout.width_le_append cs t))]
    exact judged
  · rw [judgeLayout, if_neg wide] at judged
    cases given : (Layout.read cs).1.precision with
    | none => simp [given] at judged
    | some n =>
      obtain ⟨width, m, precision, more⟩ := Layout.precision_le_append given t
      by_cases long : Layout.limit < n
      · have longer : Layout.limit < m := Nat.lt_of_lt_of_le long more
        simpa [judgeLayout, width, wide, precision, longer, given, long] using judged
      · simp [given, long] at judged

def closeField (l : Layout) (c : Char) : Except Cause Field :=
  (Conversion.ofChar? c).elim (.error (.unrecognizedOption c)) fun conversion => .ok ⟨conversion, l⟩

theorem readField_eq_closing : readField = .closing Layout.read judgeLayout closeField := by
  funext cs
  rw [readField, Reader.closing]
  generalize Layout.read cs = found
  obtain ⟨l, left⟩ := found
  by_cases wide : Layout.limit < l.width
  · simp [judgeLayout, wide]
  · by_cases long : Layout.limit < l.precision.getD 0
    · simp [judgeLayout, wide, long]
    · cases left with
      | nil => simp [judgeLayout, wide, long]
      | cons c rest =>
        cases found : Conversion.ofChar? c <;>
          simp [judgeLayout, closeField, wide, long, found, Except.map]

theorem viable_readField : readField.Viable := by
  rw [readField_eq_closing]
  refine Reader.viable_closing Layout.delimited_read 'd' ?_ ?_ (Layout.ends_letter .decimal)
    fun _ => ⟨_, rfl⟩
  · intro cs cause judged
    refine ⟨?_, judgeLayout_append judged⟩
    rintro rfl
    unfold judgeLayout at judged
    split at judged
    · cases judged
    · split at judged <;> cases judged
  · intro _ c
    cases found : Conversion.ofChar? c <;> simp [closeField, found]

theorem Reader.viable_ok {α : Type} (a : α) : Reader.Viable fun cs => .ok (a, cs) :=
  ⟨fun read => by cases read; exact ⟨[], rfl, fun _ => rfl⟩, by simp, by simp⟩

theorem Reader.viable_error {α : Type} {cause : Cause} (other : cause ≠ .unexpectedEnd) :
    Reader.Viable fun _ => (.error cause : Except Cause (α × List Char)) :=
  ⟨by simp, fun refused _ _ => refused, fun refused => by cases refused; exact absurd rfl other⟩

def readOperand (c : Char) : Reader Lexeme :=
  match c with
  | '%' => fun cs => .ok (.char '%', cs)
  | 'p' => readParameter.action id
  | 'P' => readVariable.action .set
  | 'g' => readVariable.action .get
  | '\'' => readCharacter.action .integer
  | '\x7b' => readInteger.action .integer
  | ':' => readField.action .print
  | _ =>
    if startsLayout c then fun cs => readField.action .print (c :: cs)
    else fun _ => .error (.unrecognizedOption c)

theorem readDirective_of_none {c : Char} (letter : Token.ofLetter? c = none) (cs : List Char) :
    readDirective (c :: cs) = readOperand c cs := by
  unfold readDirective readOperand
  simp only [letter]
  split
  case h_8 => split <;> simp [*]
  all_goals rfl

/-- Behind `%` and the character after it a directive is decided by what is read of it. -/
theorem viable_readDirective (c : Char) : Reader.Viable fun cs => readDirective (c :: cs) := by
  cases letter : Token.ofLetter? c with
  | some t =>
    have read : (fun cs => readDirective (c :: cs)) = fun cs => .ok (.token t, cs) := by
      simp only [readDirective, letter]
    exact read ▸ Reader.viable_ok _
  | none =>
    rw [show (fun cs => readDirective (c :: cs)) = readOperand c from
      funext (readDirective_of_none letter)]
    unfold readOperand
    split
    · exact Reader.viable_ok _
    · exact viable_readParameter.action _
    · exact viable_readVariable.action _
    · exact viable_readVariable.action _
    · exact viable_readCharacter.action _
    · exact viable_readInteger.action _
    · exact viable_readField.action _
    · split
      · exact (viable_readField.action _).cons rfl c
      · exact Reader.viable_error (by simp)

end Template

end TermTemplate
