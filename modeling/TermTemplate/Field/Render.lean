import TermTemplate.Field.Basic
import TermTemplate.Value

/-! The text that a field prints for a value. Numbers are filled with zeros between their mark and
their digits, or with blanks behind them; strings and characters are filled with blanks only. -/
namespace TermTemplate

/-- A number in two parts: the mark shows its sign or base, and fill goes between mark and digits. -/
structure Numeral where
  mark : List Char
  digits : List Char
  deriving DecidableEq, Repr

namespace Layout

/-- Precision is the least number of digits. -/
def toPrecision (l : Layout) (digits : List Char) : List Char :=
  digits.leftpad (l.precision.getD 0) '0'

def fillNumeral (l : Layout) (n : Numeral) : List Char :=
  if l.left then (n.mark ++ n.digits).rightpad l.width ' '
  else n.mark ++ n.digits.leftpad (l.width - n.mark.length) '0'

def fillText (l : Layout) (cs : List Char) : List Char :=
  if l.left then cs.rightpad l.width ' ' else cs.leftpad l.width ' '

/-- Precision is the greatest number of characters. -/
def cut (l : Layout) (cs : List Char) : List Char :=
  match l.precision with
  | some n => cs.take n
  | none => cs

end Layout

namespace Numeral

def decimal (l : Layout) (n : Int64) : Numeral where
  mark := if n < 0 then ['-'] else if l.sign then ['+'] else if l.space then [' '] else []
  digits := l.toPrecision (Nat.toDigits 10 n.toInt.natAbs)

/-- A negative number shows the bits of its word. The mark is dropped where precision already
supplies a leading zero. -/
def octal (l : Layout) (n : Int64) : Numeral :=
  let digits := l.toPrecision (Nat.toDigits 8 n.toUInt64.toNat)
  { mark := if l.alternate && digits.head? != some '0' then ['0'] else [], digits }

/-- As `octal` for the bits; zero has no mark. -/
def hex (l : Layout) (n : Int64) : Numeral where
  mark := if l.alternate && n != 0 then ['0', 'x'] else []
  digits := l.toPrecision (Nat.toDigits 16 n.toUInt64.toNat)

def toUpper (n : Numeral) : Numeral := ⟨n.mark.map Char.toUpper, n.digits.map Char.toUpper⟩

end Numeral

namespace Field

def renderChars (f : Field) (v : Option Value) : List Char :=
  let l := f.layout
  let n := (v.map Value.toInteger).getD 0
  match f.conversion with
  | .decimal => l.fillNumeral (.decimal l n)
  | .octal => l.fillNumeral (.octal l n)
  | .lowerHex => l.fillNumeral (.hex l n)
  | .upperHex => l.fillNumeral (Numeral.hex l n).toUpper
  | .string => l.fillText (l.cut ((v.map Value.display).getD []))
  | .char => l.fillText [Text.charOfCode n.toInt]

/-- No value prints as 0, and as nothing in a string field. -/
def render (f : Field) (v : Option Value) : String := String.ofList (f.renderChars v)

end Field

end TermTemplate
