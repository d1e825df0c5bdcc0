import TermTemplate.Text.Basic

/-! Literal text in a template: backslash escapes, control characters behind a caret, and padding,
which stands in the text without being part of it. Each reader gives back the characters that it
leaves, a suffix of those that it was given. -/
namespace TermTemplate.Template

def escapeLetter? : Char → Option Char
  | 'E' | 'e' => some '\x1b'
  | 'n' | 'l' => some '\n'
  | 'r' => some '\r'
  | 't' => some '\t'
  | 'b' => some '\x08'
  | 'f' => some '\x0c'
  | 's' => some ' '
  | _ => none

def isOctalDigit (c : Char) : Bool := '0' ≤ c && c ≤ '7'

def octalPart (cs : List Char) : List Char := (cs.take 3).takeWhile isOctalDigit

/-- The character that stands behind a backslash. One without a meaning of its own stands for
itself, and so does the backslash at the end of a template. -/
def readEscape : List Char → Char × List Char
  | [] => ('\\', [])
  | c :: cs =>
    match escapeLetter? c with
    | some d => (d, cs)
    | none =>
      if isOctalDigit c then
        let digits := octalPart (c :: cs)
        (Text.charOfCode (Nat.ofDigitChars 8 digits 0), (c :: cs).drop digits.length)
      else (c, cs)

def isControlName (c : Char) : Bool := ('@' ≤ c && c ≤ '_') || ('a' ≤ c && c ≤ 'z')

/-- The control character that stands behind a caret. A caret before anything else is itself. -/
def readCaret : List Char → Char × List Char
  | [] => ('^', [])
  | '?' :: cs => ('\x7f', cs)
  | c :: cs => if isControlName c then (Char.ofNat (c.toNat % 32), cs) else ('^', c :: cs)

def isPaddingChar (c : Char) : Bool := c.isDigit || c == '.' || c == '*' || c == '/'

def readPadding? : List Char → Option (String × List Char)
  | '<' :: cs =>
    match cs.dropWhile isPaddingChar with
    | '>' :: rest => some (String.ofList ('$' :: '<' :: cs.takeWhile isPaddingChar ++ ['>']), rest)
    | _ => none
  | _ => none

theorem readEscape_suffix (cs : List Char) : (readEscape cs).2 <:+ cs := by
  unfold readEscape
  split
  · exact List.suffix_rfl
  · split
    · exact List.suffix_cons _ _
    · split
      · exact List.drop_suffix _ _
      · exact List.suffix_cons _ _

theorem readCaret_suffix (cs : List Char) : (readCaret cs).2 <:+ cs := by
  unfold readCaret
  split
  · exact List.suffix_rfl
  · exact List.suffix_cons _ _
  · split
    · exact List.suffix_cons _ _
    · exact List.suffix_rfl

theorem readPadding?_suffix {cs rest : List Char} {text : String}
    (h : readPadding? cs = some (text, rest)) : rest <:+ cs := by
  unfold readPadding? at h
  split at h
  · split at h
    · rename_i cs _ _ left
      cases h
      exact (List.suffix_cons _ _).trans
        ((left ▸ List.dropWhile_suffix isPaddingChar).trans (List.suffix_cons _ _))
    · cases h
  · cases h

end TermTemplate.Template
