import TermTemplate.Checked.Arithmetic
import TermTemplate.Field.Render

/-! Printing values with the sizes and places of texts counted in bytes, as they are stored. -/
namespace TermTemplate.Checked

def bytes (s : String) : List UInt8 := s.toByteArray.data.toList

def isDigitByte (b : UInt8) : Bool := 48 ≤ b.toNat && b.toNat ≤ 57

/-- The word with one more digit. Words wrap, but the digit is a difference of bytes. -/
def pushByte? (value : Int64) (b : UInt8) : Option Int64 :=
  (sub? b.toNat '0'.toNat).map fun digit => 10 * value + Int64.ofNat digit

def isSign (first : Option UInt8) : Bool := first = some 45 || first = some 43

def behindSign? (text : String) : Option String :=
  if isSign (bytes text).head? then sliceFrom? text 1 else some text

/-- What a text counts as in arithmetic. Sign and digits are looked for among its bytes. -/
def leadingInteger? (s : String) : Option Int64 := do
  let text := String.ofList (s.toList.dropWhile Text.isWhiteSpace)
  let digits ← behindSign? text
  let value ← ((bytes digits).takeWhile isDigitByte).foldlM pushByte? 0
  some (if (bytes text).head? = some 45 then -value else value)

def toInteger? : Value → Option Int64
  | .integer n => some n
  | .text s => leadingInteger? s

def byteSize (cs : List Char) : Nat := (String.ofList cs).utf8ByteSize

def fillNumeral? (l : Layout) (n : Numeral) : Option (List Char) :=
  let size := byteSize n.mark + byteSize n.digits
  if l.width ≤ size then some (n.mark ++ n.digits)
  else if l.left then
    (sub? l.width size).map fun fill => n.mark ++ n.digits ++ List.replicate fill ' '
  else
    (sub? l.width (byteSize n.mark)).map fun room => n.mark ++ n.digits.leftpad room '0'

/-- The bytes that the characters start with, from the given one on. -/
def offsets : Nat → List Char → List Nat
  | _, [] => []
  | start, c :: cs => start :: offsets (start + c.utf8Size) cs

/-- The text up to the character behind those that precision allows. -/
def cut? (l : Layout) (s : String) : Option String :=
  match l.precision.bind fun n => (offsets 0 s.toList)[n]? with
  | some offset => truncate? s offset
  | none => some s

def renderChars? (f : Field) (v : Value) : Option (List Char) :=
  let l := f.layout
  match f.conversion with
  | .decimal => do fillNumeral? l (.decimal l (← toInteger? v))
  | .octal => do fillNumeral? l (.octal l (← toInteger? v))
  | .lowerHex => do fillNumeral? l (.hex l (← toInteger? v))
  | .upperHex => do fillNumeral? l (Numeral.hex l (← toInteger? v)).toUpper
  | .string => do some (l.fillText (← cut? l (String.ofList v.display)).toList)
  | .char => do some (l.fillText [Text.charOfCode (← toInteger? v).toInt])

end TermTemplate.Checked
