import TermTemplate.Template.Error
import TermTemplate.Template.Literal
import TermTemplate.Template.Token

/-! What stands behind the letter of a directive. -/
namespace TermTemplate.Template

/-- A reader that can refuse what it finds. -/
abbrev Reader (α : Type) := List Char → Except Cause (α × List Char)

/-- What the reader leaves is a suffix of what it was given. -/
def Reader.Forward {α : Type} (r : Reader α) : Prop :=
  ∀ cs a rest, r cs = .ok (a, rest) → rest <:+ cs

def readParameter : Reader Action
  | [] => .error .unexpectedEnd
  | c :: cs =>
    if '1' ≤ c ∧ c ≤ '9' then .ok (.parameter (c.toNat - '1'.toNat), cs)
    else .error (.invalidParameter c)

def readVariable : Reader Variable
  | [] => .error .unexpectedEnd
  | c :: cs =>
    match Variable.ofLetter? c with
    | some v => .ok (v, cs)
    | none => .error (.invalidVariable c)

def readCharacter : Reader Int64
  | [] => .error .unexpectedEnd
  | c :: cs =>
    match if c = '\\' then readEscape cs else (c, cs) with
    | (d, '\'' :: rest) => .ok (Int64.ofNat d.toNat, rest)
    | (_, _ :: _) => .error .malformedCharacter
    | (_, []) => .error .unexpectedEnd

/-- The greatest magnitude of an integer constant, for either sign. -/
def greatestInteger : Nat := 0x7FFFFFFFFFFFFFFF

/-- The digits and the closing brace of an integer constant. No digits count as 0. A magnitude out
of range is found before any fault that follows the digits. -/
def readMagnitude (sign : Int) : Reader Int64 := fun cs =>
  let (magnitude, cs) := Text.readNat cs
  if greatestInteger < magnitude then .error .integerOverflow
  else match cs with
    | '\x7d' :: rest => .ok (Int64.ofInt (sign * magnitude), rest)
    | _ :: _ => .error .malformedInteger
    | [] => .error .unexpectedEnd

def readInteger : Reader Int64
  | '-' :: cs => readMagnitude (-1) cs
  | cs => readMagnitude 1 cs

/-- A field with a layout. Unlike a format string, a template may not ask for more than the limit. -/
def readField : Reader Field := fun cs =>
  let (layout, cs) := Layout.read cs
  if Layout.limit < layout.width then .error .widthOverflow
  else if Layout.limit < layout.precision.getD 0 then .error .precisionOverflow
  else match cs with
    | [] => .error .unexpectedEnd
    | c :: rest =>
      match Conversion.ofChar? c with
      | some conversion => .ok (⟨conversion, layout⟩, rest)
      | none => .error (.unrecognizedOption c)

theorem readParameter_forward : readParameter.Forward := by
  intro cs a rest h
  unfold readParameter at h
  split at h
  · cases h
  · split at h
    · cases h; exact List.suffix_cons _ _
    · cases h

theorem readVariable_forward : readVariable.Forward := by
  intro cs a rest h
  unfold readVariable at h
  split at h
  · cases h
  · split at h
    · cases h; exact List.suffix_cons _ _
    · cases h

theorem readCharacter_forward : readCharacter.Forward := by
  intro cs a rest h
  unfold readCharacter at h
  split at h
  · cases h
  · rename_i c cs
    have inner : (if c = '\\' then readEscape cs else (c, cs)).2 <:+ cs := by
      split
      · exact readEscape_suffix cs
      · exact List.suffix_rfl
    split at h
    · rename_i left
      cases h
      exact (List.suffix_cons _ _).trans ((left ▸ inner).trans (List.suffix_cons _ _))
    · cases h
    · cases h

theorem readMagnitude_forward (sign : Int) : (readMagnitude sign).Forward := by
  intro cs a rest h
  have inner := Text.readNat_suffix cs
  simp only [readMagnitude] at h
  split at h
  · cases h
  · split at h
    · rename_i left
      cases h
      exact (List.suffix_cons _ _).trans (left ▸ inner)
    · cases h
    · cases h

theorem readInteger_forward : readInteger.Forward := by
  intro cs a rest h
  unfold readInteger at h
  split at h
  · exact (readMagnitude_forward _ _ _ _ h).trans (List.suffix_cons _ _)
  · exact readMagnitude_forward _ _ _ _ h

theorem readField_forward : readField.Forward := by
  intro cs a rest h
  have inner := Layout.read_suffix cs
  simp only [readField] at h
  split at h
  · cases h
  · split at h
    · cases h
    · split at h
      · cases h
      · rename_i left
        split at h
        · cases h
          exact (List.suffix_cons _ _).trans (left ▸ inner)
        · cases h

end TermTemplate.Template
