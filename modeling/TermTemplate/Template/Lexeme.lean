import TermTemplate.Template.Operand

/-! One piece of a template: a character of literal text, decoded, or a token. -/
namespace TermTemplate.Template

inductive Lexeme
  | char (c : Char)
  | token (t : Token)
  deriving DecidableEq, Repr

/-- The characters that a layout can start with right behind `%`. A minus or plus sign there is an
operator, so a layout that starts with one needs a colon before it. -/
def startsLayout (c : Char) : Bool := c == '#' || c == ' ' || c == '.' || c.isDigit

def Reader.action {α : Type} (r : Reader α) (f : α → Action) : Reader Lexeme := fun cs =>
  (r cs).map fun (a, rest) => (.token (.action (f a)), rest)

/-- A directive behind its `%`. At the end of a template the percent sign is text. -/
def readDirective : Reader Lexeme
  | [] => .ok (.char '%', [])
  | c :: cs =>
    match Token.ofLetter? c with
    | some t => .ok (.token t, cs)
    | none =>
      match c with
      | '%' => .ok (.char '%', cs)
      | 'p' => readParameter.action id cs
      | 'P' => readVariable.action .set cs
      | 'g' => readVariable.action .get cs
      | '\'' => readCharacter.action .integer cs
      | '\x7b' => readInteger.action .integer cs
      | ':' => readField.action .print cs
      | _ =>
        if startsLayout c then readField.action .print (c :: cs)
        else .error (.unrecognizedOption c)

def readLexeme (c : Char) (cs : List Char) : Except Cause (Lexeme × List Char) :=
  match c with
  | '%' => readDirective cs
  | '\\' => let (d, rest) := readEscape cs; .ok (.char d, rest)
  | '^' => let (d, rest) := readCaret cs; .ok (.char d, rest)
  | '$' =>
    match readPadding? cs with
    | some (text, rest) => .ok (.token (.padding text), rest)
    | none => .ok (.char '$', cs)
  | _ => .ok (.char c, cs)

theorem Reader.Forward.action {α : Type} {r : Reader α} (forward : r.Forward) (f : α → Action) :
    (r.action f).Forward := by
  intro cs x rest h
  unfold Reader.action at h
  cases read : r cs with
  | error cause => simp [read, Except.map] at h
  | ok found =>
    simp only [read, Except.map, Except.ok.injEq, Prod.mk.injEq] at h
    exact h.2 ▸ forward cs found.1 found.2 read

theorem readDirective_forward : readDirective.Forward := by
  intro cs x rest h
  unfold readDirective at h
  split at h
  · cases h; exact List.suffix_rfl
  · split at h
    · cases h; exact List.suffix_cons _ _
    · have step {r : Reader Lexeme} (forward : r.Forward) {c : Char} {cs : List Char}
          (h : r cs = .ok (x, rest)) : rest <:+ c :: cs :=
        (forward _ _ _ h).trans (List.suffix_cons _ _)
      split at h
      · cases h; exact List.suffix_cons _ _
      · exact step (readParameter_forward.action _) h
      · exact step (readVariable_forward.action _) h
      · exact step (readVariable_forward.action _) h
      · exact step (readCharacter_forward.action _) h
      · exact step (readInteger_forward.action _) h
      · exact step (readField_forward.action _) h
      · split at h
        · exact readField_forward.action _ _ _ _ h
        · cases h

theorem readLexeme_suffix {c : Char} {cs rest : List Char} {x : Lexeme}
    (h : readLexeme c cs = .ok (x, rest)) : rest <:+ cs := by
  unfold readLexeme at h
  split at h
  · exact readDirective_forward _ _ _ h
  · cases h; exact readEscape_suffix cs
  · cases h; exact readCaret_suffix cs
  · split at h
    · rename_i found; cases h; exact readPadding?_suffix found
    · cases h; exact List.suffix_rfl
  · cases h; exact List.suffix_rfl

end TermTemplate.Template
