import TermTemplate.Field.Render

/-! Format strings: text in which each `%` field prints the next argument. Every string is one:
`%%` prints a percent sign, and so does a `%` that starts no field. -/
namespace TermTemplate.FormatString

/-- Reads a field behind its `%`. Numbers above the limit count as the limit. -/
def readField? (cs : List Char) : Option (Field × List Char) :=
  match Layout.read cs with
  | (layout, c :: rest) =>
    (Conversion.ofChar? c).map fun conversion => (⟨conversion, layout.capped⟩, rest)
  | (_, []) => none

theorem readField?_length {cs rest : List Char} {f : Field} (h : readField? cs = some (f, rest)) :
    rest.length < cs.length := by
  have short := (Layout.read_suffix cs).length_le
  unfold readField? at h
  split at h
  · rename_i read
    obtain ⟨_, _, same⟩ := Option.map_eq_some_iff.mp h
    cases same
    rw [read] at short
    exact short
  · cases h

/-- Arguments that run out print as no value. -/
def expandChars : List Char → List Value → List Char
  | [], _ => []
  | '%' :: '%' :: cs, args => '%' :: expandChars cs args
  | '%' :: cs, args =>
    match _found : readField? cs with
    | some (f, rest) => f.renderChars args.head? ++ expandChars rest args.tail
    | none => '%' :: expandChars cs args
  | c :: cs, args => c :: expandChars cs args
termination_by cs => cs.length
decreasing_by
  · simp only [List.length_cons]; omega
  · have := readField?_length _found; simp only [List.length_cons]; omega
  · simp
  · simp

def expand (format : String) (args : List Value) : String :=
  String.ofList (expandChars format.toList args)

end TermTemplate.FormatString
