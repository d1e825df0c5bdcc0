/-! Characters and the numbers that they stand for. Sets of characters are given by ranges of code
points. A decimal number is written from an integer, read as an unbounded number, or read as a 64-bit
word that wraps. -/
namespace TermTemplate.Text

/-- Ranges `(first, last)` with both ends included. -/
abbrev CodePoints := List (Nat × Nat)

def CodePoints.covers (set : CodePoints) (c : Char) : Bool :=
  set.any fun range => range.1 ≤ c.toNat && c.toNat ≤ range.2

theorem bounds_of_isDigit {c : Char} (digit : c.isDigit) : 48 ≤ c.toNat ∧ c.toNat ≤ 57 := by
  simpa [Char.isDigit, UInt32.le_iff_toNat_le] using digit

/-- The White_Space property of Unicode. -/
def whiteSpace : CodePoints := [
  (0x9, 0xD), (0x20, 0x20), (0x85, 0x85), (0xA0, 0xA0), (0x1680, 0x1680), (0x2000, 0x200A),
  (0x2028, 0x2029), (0x202F, 0x202F), (0x205F, 0x205F), (0x3000, 0x3000)]

def isWhiteSpace (c : Char) : Bool := whiteSpace.covers c

theorem isWhiteSpace_of_isDigit {c : Char} (h : c.isDigit) : isWhiteSpace c = false := by
  have bounds := bounds_of_isDigit h
  simp [isWhiteSpace, whiteSpace, CodePoints.covers]
  omega

/-- Stands for NUL, which would end the text on its way to a terminal. -/
def nulStandIn : Char := '\x80'

/-- Stands for a number that names no character. -/
def replacement : Char := '\uFFFD'

def charOfCode (code : Int) : Char :=
  if code = 0 then nulStandIn
  else if 0 < code ∧ code.toNat.isValidChar then Char.ofNat code.toNat
  else replacement

def decimal (n : Int) : List Char :=
  if n < 0 then '-' :: Nat.toDigits 10 n.natAbs else Nat.toDigits 10 n.natAbs

/-- The number that the leading digits denote, and what follows them. No digits denote 0. -/
def readNat (cs : List Char) : Nat × List Char :=
  (Nat.ofDigitChars 10 (cs.takeWhile Char.isDigit) 0, cs.dropWhile Char.isDigit)

theorem readNat_suffix (cs : List Char) : (readNat cs).2 <:+ cs := List.dropWhile_suffix _

def digitWord (c : Char) : Int64 := Int64.ofNat (c.toNat - '0'.toNat)

/-- The leading digits as a word; every step wraps. -/
def readWord (cs : List Char) : Int64 :=
  (cs.takeWhile Char.isDigit).foldl (fun n c => 10 * n + digitWord c) 0

/-- What a text counts as in arithmetic: white space, at most one sign, digits. Anything that
follows is ignored, and no digits count as 0. -/
def leadingInteger (cs : List Char) : Int64 :=
  match cs.dropWhile isWhiteSpace with
  | '-' :: digits => -readWord digits
  | '+' :: digits => readWord digits
  | digits => readWord digits

end TermTemplate.Text
