import TermTemplate.Text.Basic

/-! Values that templates take, compute with and print. -/
namespace TermTemplate

inductive Value
  | integer (n : Int64)
  | text (s : String)
  deriving DecidableEq, Repr

namespace Value

instance : Inhabited Value := ⟨.integer 0⟩

def ofBool (b : Bool) : Value := .integer (if b then 1 else 0)

def ofNat (n : Nat) : Value := .integer (Int64.ofNat n)

/-- A character counts as its code point. -/
def ofChar (c : Char) : Value := ofNat c.toNat

/-- The integer part, at the nearest end of the 64-bit range if it lies outside; not a number is 0. -/
def ofFloat (x : Float) : Value :=
  .integer (Int64.ofIntClamp (if x < 0 then -((-x).toUInt64.toNat : Int) else x.toUInt64.toNat))

def ofFloat32 (x : Float32) : Value :=
  .integer (Int64.ofIntClamp (if x < 0 then -((-x).toUInt64.toNat : Int) else x.toUInt64.toNat))

def toInteger : Value → Int64
  | .integer n => n
  | .text s => Text.leadingInteger s.toList

/-- A text is true when it is not empty, whatever integer it counts as. -/
def isTruthy : Value → Bool
  | .integer n => n != 0
  | .text s => !s.isEmpty

def display : Value → List Char
  | .integer n => Text.decimal n.toInt
  | .text s => s.toList

instance : ToString Value := ⟨fun v => String.ofList v.display⟩

def length (v : Value) : Nat := v.display.length

end Value

end TermTemplate
