import TermTemplate.FormatString
import TermTemplate.Template.Operand

/-! Readers of fields whose numbers keep to the limit digit by digit. One goes through a field in a
single pass and refuses the digit that takes a number above the limit; the other reads part after
part, and its numbers stay at the limit. -/
namespace TermTemplate

namespace Template

/-- The part of a field that the next character is expected to belong to. -/
inductive Stage
  | flags
  | width
  | precision
  deriving DecidableEq, Repr

def pushDigit? (n : Nat) (c : Char) : Option Nat :=
  if 10 * n + (c.toNat - '0'.toNat) ≤ Layout.limit then some (10 * n + (c.toNat - '0'.toNat)) else none

def Stage.step (l : Layout) (c : Char) : Stage → Except Cause (Stage × Layout)
  | flags =>
    match l.addFlag? c with
    | some l => .ok (.flags, l)
    | none =>
      if c.isDigit then .ok (.width, { l with width := c.toNat - '0'.toNat })
      else if c = '.' then .ok (.precision, { l with precision := some 0 })
      else .error (.unrecognizedOption c)
  | width =>
    if c.isDigit then
      match pushDigit? l.width c with
      | some n => .ok (.width, { l with width := n })
      | none => .error .widthOverflow
    else if c = '.' then .ok (.precision, { l with precision := some 0 })
    else .error (.unrecognizedOption c)
  | precision =>
    if c.isDigit then
      match pushDigit? (l.precision.getD 0) c with
      | some n => .ok (.precision, { l with precision := some n })
      | none => .error .precisionOverflow
    else .error (.unrecognizedOption c)

/-- Conversions are looked for first, in every part. -/
def scanField (stage : Stage) (l : Layout) : Reader Field
  | [] => .error .unexpectedEnd
  | c :: cs =>
    match Conversion.ofChar? c with
    | some conversion => .ok (⟨conversion, l⟩, cs)
    | none =>
      match stage.step l c with
      | .ok (stage, l) => scanField stage l cs
      | .error cause => .error cause

end Template

namespace FormatString

/-- The number with one more digit. Product and sum stay at the limit. -/
def pushSaturating (n : Nat) (c : Char) : Nat :=
  min (min (10 * n) Layout.limit + (c.toNat - '0'.toNat)) Layout.limit

def readSaturating (cs : List Char) : Nat × List Char :=
  ((cs.takeWhile Char.isDigit).foldl pushSaturating 0, cs.dropWhile Char.isDigit)

def readSaturatingPrecision : List Char → Option Nat × List Char
  | '.' :: cs => (readSaturating cs).map some id
  | cs => (none, cs)

def readSaturatingField? (cs : List Char) : Option (Field × List Char) :=
  let (flags, cs) := Layout.readFlags {} cs
  let (width, cs) := readSaturating cs
  let (precision, cs) := readSaturatingPrecision cs
  match cs with
  | [] => none
  | c :: rest =>
    (Conversion.ofChar? c).map fun conversion => (⟨conversion, { flags with width, precision }⟩, rest)

end FormatString

end TermTemplate
