import TermTemplate.Checked.Arithmetic
import TermTemplate.Field.Bounded
import TermTemplate.Template.Tokens

/-! Reading a template with every number made digit by digit, in words of the size that it has room
in, and every operation on the way checked. A template that is refused is read like any other, up to
the directive at fault. -/
namespace TermTemplate.Checked

open Template

/-- A reader that can meet an operation outside its domain, apart from refusing what it finds. -/
abbrev Reader (α : Type) := List Char → Option (Except Cause (α × List Char))

def digit? (c : Char) : Option Nat := sub? c.toNat '0'.toNat

def pushOctal? (code : Nat) (c : Char) : Option Nat := do
  let eightfold ← unsigned? UInt32.size (code * 8)
  let digit ← digit? c
  unsigned? UInt32.size (eightfold + digit)

def readEscape? : List Char → Option (Char × List Char)
  | [] => some ('\\', [])
  | c :: cs =>
    match escapeLetter? c with
    | some d => some (d, cs)
    | none =>
      if isOctalDigit c then do
        let digits := octalPart (c :: cs)
        let code ← digits.foldlM pushOctal? 0
        some (Text.charOfCode code, (c :: cs).drop digits.length)
      else some (c, cs)

/-- A parameter is written with its number, and used with the index below that. -/
def readParameter? : Reader Action
  | [] => some (.error .unexpectedEnd)
  | c :: cs =>
    if '1' ≤ c ∧ c ≤ '9' then do
      let number ← digit? c
      let index ← sub? number 1
      some (.ok (.parameter index, cs))
    else some (.error (.invalidParameter c))

/-- The place of a letter among those from `first` on, which has to be an index of the variables. -/
def variableIndex? (first c : Char) : Option (Fin 26) := (sub? c.toNat first.toNat).bind (index? 26)

def readVariable? : Reader Variable
  | [] => some (.error .unexpectedEnd)
  | c :: cs =>
    if 'a' ≤ c ∧ c ≤ 'z' then do
      let index ← variableIndex? 'a' c
      some (.ok (.dynamic index, cs))
    else if 'A' ≤ c ∧ c ≤ 'Z' then do
      let index ← variableIndex? 'A' c
      some (.ok (.static index, cs))
    else some (.error (.invalidVariable c))

def readCharacter? : Reader Int64
  | [] => some (.error .unexpectedEnd)
  | c :: cs =>
    (if c = '\\' then readEscape? cs else some (c, cs)).map fun
      | (d, '\'' :: rest) => .ok (Int64.ofNat d.toNat, rest)
      | (_, _ :: _) => .error .malformedCharacter
      | (_, []) => .error .unexpectedEnd

/-- The word with one more decimal digit. That it does not fit is found out, and is no fault. -/
def pushDecimal? (value : Int64) (digit : Nat) : Option Int64 := do
  let tenfold ← signed? (value.toInt * 10)
  signed? (tenfold.toInt + digit)

def readMagnitude? (negative : Bool) (value : Int64) : Reader Int64
  | [] => some (.error .unexpectedEnd)
  | c :: cs =>
    if c = '\x7d' then
      (if negative then signed? (-value.toInt) else some value).map fun signed => .ok (signed, cs)
    else if c.isDigit then do
      let digit ← digit? c
      match pushDecimal? value digit with
      | some more => readMagnitude? negative more cs
      | none => some (.error .integerOverflow)
    else some (.error .malformedInteger)

def readInteger? : Reader Int64
  | '-' :: cs => readMagnitude? true 0 cs
  | cs => readMagnitude? false 0 cs

/-- The width or precision with one more digit, in 16 bits; again that can be found not to fit. -/
def pushWidth? (n digit : Nat) : Option Nat := do
  let tenfold ← unsigned? UInt16.size (n * 10)
  unsigned? UInt16.size (tenfold + digit)

def stepDigit (l : Layout) (digit : Nat) : Stage → Except Cause (Stage × Layout)
  | .flags => .ok (.width, { l with width := digit })
  | .width =>
    match pushWidth? l.width digit with
    | some n => .ok (.width, { l with width := n })
    | none => .error .widthOverflow
  | .precision =>
    match pushWidth? (l.precision.getD 0) digit with
    | some n => .ok (.precision, { l with precision := some n })
    | none => .error .precisionOverflow

def step? (l : Layout) (c : Char) (stage : Stage) : Option (Except Cause (Stage × Layout)) :=
  if c.isDigit then (digit? c).map (stepDigit l · stage) else some (stage.step l c)

def scanField? (stage : Stage) (l : Layout) : Reader Field
  | [] => some (.error .unexpectedEnd)
  | c :: cs =>
    match Conversion.ofChar? c with
    | some conversion => some (.ok (⟨conversion, l⟩, cs))
    | none => do
      match ← step? l c stage with
      | .ok (stage, l) => scanField? stage l cs
      | .error cause => some (.error cause)

def Reader.action {α : Type} (r : Reader α) (f : α → Action) : Reader Lexeme := fun cs =>
  (r cs).map (·.map fun (a, rest) => (.token (.action (f a)), rest))

def readDirective? : Reader Lexeme
  | [] => some (.ok (.char '%', []))
  | c :: cs =>
    match Token.ofLetter? c with
    | some t => some (.ok (.token t, cs))
    | none =>
      match c with
      | '%' => some (.ok (.char '%', cs))
      | 'p' => Reader.action readParameter? id cs
      | 'P' => Reader.action readVariable? .set cs
      | 'g' => Reader.action readVariable? .get cs
      | '\'' => Reader.action readCharacter? .integer cs
      | '\x7b' => Reader.action readInteger? .integer cs
      | ':' => Reader.action (scanField? .flags {}) .print cs
      | _ =>
        if startsLayout c then Reader.action (scanField? .flags {}) .print (c :: cs)
        else some (.error (.unrecognizedOption c))

/-- Padding, carets and plain text are read without any arithmetic. -/
def readLexeme? (c : Char) (cs : List Char) : Option (Except Cause (Lexeme × List Char)) :=
  match c with
  | '%' => readDirective? cs
  | '\\' => (readEscape? cs).map fun (d, rest) => .ok (.char d, rest)
  | _ => some (readLexeme c cs)

/-- A piece that left more than it was given would be a fault as well: reading might not end. -/
def lexemes? : List Char → Option (Except Failure (List Lexeme))
  | [] => some (.ok [])
  | c :: cs =>
    match readLexeme? c cs with
    | none => none
    | some (.error cause) => some (.error ⟨cause, c :: cs⟩)
    | some (.ok (x, rest)) =>
      if rest.length ≤ cs.length then (lexemes? rest).map (·.map (x :: ·)) else none
termination_by cs => cs.length
decreasing_by simp only [List.length_cons]; omega

def tokens? (source : String) : Option (Except Error (List Token)) := do
  match ← lexemes? source.toList with
  | .ok xs => some (.ok (gather "" xs))
  | .error f =>
    let offset ← sub? source.utf8ByteSize (String.ofList f.rest).utf8ByteSize
    some (.error ⟨f.cause, offset⟩)

end TermTemplate.Checked
