import TermTemplate.Text.Basic

/-! Fields: how one value is to be printed, and how that is written down. Flags, width and precision
have one grammar, `[-+# ]* [0-9]* (. [0-9]*)?`, wherever a field is written. -/
namespace TermTemplate

inductive Conversion
  | decimal
  | octal
  | lowerHex
  | upperHex
  | string
  | char
  deriving DecidableEq, Repr

def Conversion.ofChar? : Char → Option Conversion
  | 'd' => some .decimal
  | 'o' => some .octal
  | 'x' => some .lowerHex
  | 'X' => some .upperHex
  | 's' => some .string
  | 'c' => some .char
  | _ => none

def Conversion.letter : Conversion → Char
  | decimal => 'd'
  | octal => 'o'
  | lowerHex => 'x'
  | upperHex => 'X'
  | string => 's'
  | char => 'c'

@[simp] theorem Conversion.ofChar?_letter (c : Conversion) : ofChar? c.letter = some c := by
  cases c <;> rfl

structure Layout where
  width : Nat := 0
  precision : Option Nat := none
  /-- Shows the base of an octal or hexadecimal number. -/
  alternate : Bool := false
  /-- Fills on the right instead of the left. -/
  left : Bool := false
  /-- Shows the sign of a number that is not negative. -/
  sign : Bool := false
  /-- Leaves a blank where `sign` would show one. -/
  space : Bool := false
  deriving DecidableEq, Repr

structure Field where
  conversion : Conversion
  layout : Layout := {}
  deriving DecidableEq, Repr

namespace Layout

/-- Widths and precisions above this are not honoured. -/
def limit : Nat := 65535

def capped (l : Layout) : Layout :=
  { l with width := min l.width limit, precision := l.precision.map (min · limit) }

def addFlag? (l : Layout) : Char → Option Layout
  | '-' => some { l with left := true }
  | '+' => some { l with sign := true }
  | '#' => some { l with alternate := true }
  | ' ' => some { l with space := true }
  | _ => none

def readFlags (l : Layout) : List Char → Layout × List Char
  | [] => (l, [])
  | c :: cs =>
    match l.addFlag? c with
    | some l => l.readFlags cs
    | none => (l, c :: cs)

theorem readFlags_suffix (l : Layout) (cs : List Char) : (l.readFlags cs).2 <:+ cs := by
  induction cs generalizing l with
  | nil => exact List.suffix_rfl
  | cons c cs ih =>
    rw [readFlags]
    split
    · exact (ih _).trans (List.suffix_cons c cs)
    · exact List.suffix_rfl

/-- A point without digits asks for precision 0. -/
def readPrecision : List Char → Option Nat × List Char
  | '.' :: cs => (Text.readNat cs).map some id
  | cs => (none, cs)

theorem readPrecision_suffix (cs : List Char) : (readPrecision cs).2 <:+ cs := by
  unfold readPrecision
  split
  · exact (Text.readNat_suffix _).trans (List.suffix_cons _ _)
  · exact List.suffix_rfl

/-- Reads flags, width and precision, none of which need be there, without a limit on the numbers. -/
def read (cs : List Char) : Layout × List Char :=
  let (flags, cs) := readFlags {} cs
  let (width, cs) := Text.readNat cs
  let (precision, cs) := readPrecision cs
  ({ flags with width, precision }, cs)

theorem read_suffix (cs : List Char) : (read cs).2 <:+ cs :=
  (readPrecision_suffix _).trans ((Text.readNat_suffix _).trans (readFlags_suffix _ _))

end Layout

/-- A field as it is written, `[-+# ]* [0-9]* (. [0-9]*)? [doxXsc]`, apart from any reader. -/
structure WrittenField where
  flags : List Char
  width : List Char
  /-- The digits behind the point, if there is one. -/
  precision : Option (List Char)
  conversion : Conversion
  flags_mem : ∀ c ∈ flags, c ∈ ['-', '+', '#', ' ']
  width_digits : ∀ c ∈ width, c.isDigit
  precision_digits : ∀ ds ∈ precision, ∀ c ∈ ds, c.isDigit

namespace WrittenField

def precisionChars (w : WrittenField) : List Char := w.precision.elim [] ('.' :: ·)

def chars (w : WrittenField) : List Char :=
  w.flags ++ (w.width ++ (w.precisionChars ++ [w.conversion.letter]))

/-- The numbers are those that the digits denote, without a limit. -/
def layout (w : WrittenField) : Layout where
  width := Nat.ofDigitChars 10 w.width 0
  precision := w.precision.map fun ds => Nat.ofDigitChars 10 ds 0
  alternate := w.flags.contains '#'
  left := w.flags.contains '-'
  sign := w.flags.contains '+'
  space := w.flags.contains ' '

end WrittenField

end TermTemplate
