/-! Operations that are not defined everywhere. Each gives nothing where it is used outside its
domain, and a computation made of them gives nothing as soon as one of them does. -/
namespace TermTemplate.Checked

def sub? (a b : Nat) : Option Nat := if b ≤ a then some (a - b) else none

/-- A result that has to be one of the given number of unsigned words. -/
def unsigned? (size n : Nat) : Option Nat := if n < size then some n else none

/-- A result that a signed 64-bit word has to hold. -/
def signed? (n : Int) : Option Int64 :=
  if Int64.minValue.toInt ≤ n ∧ n ≤ Int64.maxValue.toInt then some (.ofInt n) else none

def index? (size i : Nat) : Option (Fin size) := if inside : i < size then some ⟨i, inside⟩ else none

/-- The text before the given byte, which has to be the first byte of a character, or the end. -/
def truncate? (s : String) (i : Nat) : Option String :=
  if valid : (⟨i⟩ : String.Pos.Raw).IsValid s then some (s.sliceTo ⟨⟨i⟩, valid⟩).copy else none

/-- The text from the given byte on, likewise. -/
def sliceFrom? (s : String) (i : Nat) : Option String :=
  if valid : (⟨i⟩ : String.Pos.Raw).IsValid s then some (s.sliceFrom ⟨⟨i⟩, valid⟩).copy else none

theorem sub?_of_le {a b : Nat} (le : b ≤ a) : sub? a b = some (a - b) := if_pos le

theorem unsigned?_of_lt {size n : Nat} (fits : n < size) : unsigned? size n = some n := if_pos fits

theorem signed?_of_le {n : Int} (least : Int64.minValue.toInt ≤ n) (greatest : n ≤ Int64.maxValue.toInt) :
    signed? n = some (.ofInt n) :=
  if_pos ⟨least, greatest⟩

theorem index?_of_lt {size i : Nat} (inside : i < size) : index? size i = some ⟨i, inside⟩ :=
  dif_pos inside

theorem isValid_append (s t : String) : (⟨s.utf8ByteSize⟩ : String.Pos.Raw).IsValid (s ++ t) :=
  String.Pos.Raw.isValid_iff_exists_append.mpr ⟨s, t, rfl, rfl⟩

theorem splits_append (s t : String) :
    (⟨⟨s.utf8ByteSize⟩, isValid_append s t⟩ : (s ++ t).Pos).Splits s t :=
  ⟨rfl, rfl⟩

theorem truncate?_append (s t : String) : truncate? (s ++ t) s.utf8ByteSize = some s := by
  rw [truncate?, dif_pos (isValid_append s t)]
  exact congrArg some ((String.Pos.splits _).eq (splits_append s t)).1

example : truncate? "aé" 2 = none := by decide +kernel

theorem sliceFrom?_append (s t : String) : sliceFrom? (s ++ t) s.utf8ByteSize = some t := by
  rw [sliceFrom?, dif_pos (isValid_append s t)]
  exact congrArg some ((String.Pos.splits _).eq (splits_append s t)).2

end TermTemplate.Checked
