import TermTemplate.Proofs.ReadBack

/-! Where readers stop. A reader that takes what it can use looks at most at the one character behind
that, so what it gives is the same for every text with that character there. Directives are one such
character: what stands before a directive is read in the same way with any other directive, or none,
in its place. -/
namespace TermTemplate

namespace Text

/-- What the reader gives depends on what follows only through the first character that it leaves:
the same one, or one that ends what it reads, or none, gives the same. -/
def Delimited {α : Type} (f : List Char → α × List Char) (ends : Char → Prop) : Prop :=
  ∀ cs, ∃ used, cs = used ++ (f cs).2 ∧
    ∀ t, (t.head? = (f cs).2.head? ∨ ∀ c ∈ t.head?, ends c) → f (used ++ t) = ((f cs).1, t)

namespace Delimited

variable {α β : Type} {f : List Char → α × List Char} {ends : Char → Prop}

theorem mono {fewer : Char → Prop} (delimited : Delimited f ends) (included : ∀ c, fewer c → ends c) :
    Delimited f fewer := by
  intro cs
  obtain ⟨used, split, same⟩ := delimited cs
  refine ⟨used, split, fun t following => same t (following.imp_right ?_)⟩
  exact fun ended c member => included c (ended c member)

theorem map (delimited : Delimited f ends) (h : α → β) :
    Delimited (fun cs => (f cs).map h id) ends := by
  intro cs
  obtain ⟨used, split, same⟩ := delimited cs
  exact ⟨used, split, fun t following => congrArg (Prod.map h id) (same t following)⟩

/-- Two readers one after the other, if what ends the second ends the first as well. -/
theorem bind {g : α → List Char → β × List Char} (first : Delimited f ends)
    (second : ∀ a, Delimited (g a) ends) : Delimited (fun cs => g (f cs).1 (f cs).2) ends := by
  intro cs
  obtain ⟨front, split, same⟩ := first cs
  obtain ⟨back, splitRest, sameRest⟩ := second (f cs).1 (f cs).2
  refine ⟨front ++ back, ?_, ?_⟩
  · rw [List.append_assoc, ← splitRest]
    exact split
  · intro t following
    have joined : f (front ++ (back ++ t)) = ((f cs).1, back ++ t) := by
      apply same
      cases back with
      | nil =>
        rw [List.nil_append] at splitRest
        rw [splitRest]
        exact following
      | cons c back =>
        rw [splitRest]
        exact .inl rfl
    simp only [List.append_assoc, joined]
    exact sameRest t following

/-- The character behind decides: what follows it makes no difference. -/
theorem append_of_cons (delimited : Delimited f ends) {cs rest : List Char} {a : α} {c : Char}
    (read : f cs = (a, c :: rest)) (t : List Char) : f (cs ++ t) = (a, c :: (rest ++ t)) := by
  obtain ⟨used, split, same⟩ := delimited cs
  rw [read] at split same
  rw [split, List.append_assoc]
  exact same _ (.inl rfl)

theorem append_of_nil (delimited : Delimited f ends) {cs : List Char} {a : α} (read : f cs = (a, []))
    {c : Char} (ended : ends c) (t : List Char) : f (cs ++ c :: t) = (a, c :: t) := by
  obtain ⟨used, split, same⟩ := delimited cs
  rw [read] at split same
  rw [split, List.append_nil]
  refine same _ (.inr fun d member => ?_)
  obtain rfl : c = d := by simpa using member
  exact ended

end Delimited

theorem delimited_none {α : Type} (a : α) (ends : Char → Prop) :
    Delimited (fun cs => (a, cs)) ends :=
  fun _ => ⟨[], rfl, fun _ _ => rfl⟩

/-- Up to `n` characters that have a property. -/
def spanUpTo (n : Nat) (p : Char → Bool) (cs : List Char) : List Char × List Char :=
  ((cs.take n).takeWhile p, cs.drop ((cs.take n).takeWhile p).length)

theorem spanUpTo_of_head? {p : Char → Bool} {cs : List Char} (stop : ∀ c ∈ cs.head?, p c = false)
    (n : Nat) : spanUpTo n p cs = ([], cs) := by
  cases cs with
  | nil => simp [spanUpTo]
  | cons c cs => cases n <;> simp [spanUpTo, stop c rfl]

theorem spanUpTo_cons {p : Char → Bool} {c : Char} (inside : p c) (n : Nat) (cs : List Char) :
    spanUpTo (n + 1) p (c :: cs) = (spanUpTo n p cs).map (c :: ·) id := by
  simp [spanUpTo, inside]

theorem delimited_spanUpTo (n : Nat) (p : Char → Bool) :
    Delimited (spanUpTo n p) (fun c => p c = false) := by
  induction n with
  | zero => exact delimited_none [] _
  | succ n ih =>
    intro cs
    by_cases first : ∃ c ∈ cs.head?, p c
    · obtain ⟨c, head, inside⟩ := first
      obtain ⟨ds, rfl⟩ := List.head?_eq_some_iff.mp head
      obtain ⟨used, split, same⟩ := ih ds
      rw [spanUpTo_cons inside]
      refine ⟨c :: used, congrArg (c :: ·) split, fun t following => ?_⟩
      rw [List.cons_append, spanUpTo_cons inside, same t following]
      rfl
    · have stop : ∀ c ∈ cs.head?, p c = false := by simpa using first
      rw [spanUpTo_of_head? stop]
      refine ⟨[], rfl, fun t following => spanUpTo_of_head? ?_ _⟩
      rcases following with same | ended
      · rw [List.nil_append, same]
        exact stop
      · exact ended

theorem readNat_append {ds t : List Char} (digits : ∀ c ∈ ds, c.isDigit)
    (stop : ∀ c ∈ t.head?, c.isDigit = false) :
    readNat (ds ++ t) = (Nat.ofDigitChars 10 ds 0, t) := by
  rw [readNat, List.takeWhile_append_of_pos digits, List.dropWhile_append_of_pos digits]
  cases t with
  | nil => simp
  | cons c t => simp [stop c rfl]

theorem readNat_split (cs : List Char) :
    ∃ ds, cs = ds ++ (readNat cs).2 ∧ (∀ c ∈ ds, c.isDigit) ∧
      (readNat cs).1 = Nat.ofDigitChars 10 ds 0 ∧ ∀ c ∈ (readNat cs).2.head?, c.isDigit = false := by
  refine ⟨cs.takeWhile Char.isDigit, List.takeWhile_append_dropWhile.symm,
    List.all_eq_true.mp List.all_takeWhile, rfl, fun c member => ?_⟩
  have left := List.head?_dropWhile_not Char.isDigit cs
  rw [readNat, Option.mem_def] at member
  simpa [member] using left

theorem delimited_readNat : Delimited readNat (fun c => c.isDigit = false) := by
  intro cs
  obtain ⟨ds, split, digits, number, stop⟩ := readNat_split cs
  refine ⟨ds, split, fun t following => ?_⟩
  rw [number]
  rcases following with same | ended
  · exact readNat_append digits (same ▸ stop)
  · exact readNat_append digits ended

theorem le_ofDigitChars (ds : List Char) (n : Nat) : n ≤ Nat.ofDigitChars 10 ds n := by
  induction ds generalizing n with
  | nil => simp
  | cons d ds ih =>
    rw [Nat.ofDigitChars_cons]
    exact Nat.le_trans (by omega) (ih _)

theorem readNat_le_append (cs t : List Char) : (readNat cs).1 ≤ (readNat (cs ++ t)).1 := by
  cases left : (readNat cs).2 with
  | cons c rest =>
    have read : readNat cs = ((readNat cs).1, c :: rest) := by rw [← left]
    rw [delimited_readNat.append_of_cons read]
  | nil =>
    have all : cs.takeWhile Char.isDigit = cs := by
      have split := List.takeWhile_append_dropWhile (p := Char.isDigit) (l := cs)
      rwa [show cs.dropWhile Char.isDigit = [] from left, List.append_nil] at split
    have digits : ∀ c ∈ cs, c.isDigit := by
      rw [← all]
      exact List.all_eq_true.mp List.all_takeWhile
    simp only [readNat, List.takeWhile_append_of_pos digits, Nat.ofDigitChars_append, all]
    exact le_ofDigitChars _ _

end Text

namespace Layout

theorem delimited_readFlags (l : Layout) : Text.Delimited l.readFlags Ends := by
  intro cs
  induction cs generalizing l with
  | nil =>
    refine ⟨[], rfl, fun t following => ?_⟩
    cases t with
    | nil => rfl
    | cons c t =>
      rcases following with same | ended
      · cases same
      · simp [readFlags, (ended c rfl).flag]
  | cons d cs ih =>
    cases flag : l.addFlag? d with
    | some l' =>
      obtain ⟨used, split, same⟩ := ih l'
      have step (cs : List Char) : l.readFlags (d :: cs) = l'.readFlags cs := by
        simp only [readFlags, flag]
      refine ⟨d :: used, ?_, fun t following => ?_⟩
      · rw [step, List.cons_append, ← split]
      · rw [step] at following ⊢
        rw [List.cons_append, step]
        exact same t following
    | none =>
      have step : l.readFlags (d :: cs) = (l, d :: cs) := by simp only [readFlags, flag]
      refine ⟨[], by rw [step]; rfl, fun t following => ?_⟩
      rw [step] at following ⊢
      cases t with
      | nil => rfl
      | cons c t =>
        have stop : l.addFlag? c = none := by
          rcases following with same | ended
          · obtain rfl : c = d := by simpa using same
            exact flag
          · exact (ended c rfl).flag l
        simp [readFlags, stop]

theorem readPrecision_of_head? {cs : List Char} (point : cs.head? ≠ some '.') :
    readPrecision cs = (none, cs) := by
  unfold readPrecision
  split
  · exact absurd rfl point
  · rfl

theorem delimited_readPrecision : Text.Delimited readPrecision Ends := by
  intro cs
  by_cases point : cs.head? = some '.'
  · obtain ⟨ds, rfl⟩ := List.head?_eq_some_iff.mp point
    obtain ⟨used, split, same⟩ := Text.delimited_readNat ds
    refine ⟨'.' :: used, congrArg ('.' :: ·) split, fun t following => ?_⟩
    have read : Text.readNat (used ++ t) = ((Text.readNat ds).1, t) :=
      same t (following.imp_right fun ended c member => (ended c member).digit)
    simp [readPrecision, read]
  · have left : readPrecision cs = (none, cs) := readPrecision_of_head? point
    refine ⟨[], by rw [left]; rfl, fun t following => ?_⟩
    rw [left] at following ⊢
    apply readPrecision_of_head?
    rcases following with same | ended
    · exact same ▸ point
    · exact fun first => (ended '.' first).point rfl

/-- The part of a layout that can stand before a point. -/
def readWidth (cs : List Char) : Layout × List Char :=
  (Text.readNat (readFlags {} cs).2).map (fun width => { (readFlags {} cs).1 with width }) id

theorem read_eq_readWidth (cs : List Char) :
    read cs = (readPrecision (readWidth cs).2).map
      (fun precision => { (readWidth cs).1 with precision }) id := rfl

theorem delimited_readWidth : Text.Delimited readWidth Ends := by
  have number := Text.delimited_readNat.mono fun c (ended : Ends c) => ended.digit
  have width (flags : Layout) := number.map fun width => { flags with width }
  exact (delimited_readFlags {}).bind width

/-- A layout is read up to its end, whatever follows that. -/
theorem delimited_read : Text.Delimited read Ends := by
  have precision (l : Layout) := delimited_readPrecision.map fun precision => { l with precision }
  exact delimited_readWidth.bind precision

theorem width_le_append (cs t : List Char) : (read cs).1.width ≤ (read (cs ++ t)).1.width := by
  show (Text.readNat (readFlags {} cs).2).1 ≤ (Text.readNat (readFlags {} (cs ++ t)).2).1
  cases left : (readFlags {} cs).2 with
  | nil => exact Nat.zero_le _
  | cons c rest =>
    have flags : readFlags {} cs = ((readFlags {} cs).1, c :: rest) := by rw [← left]
    rw [(delimited_readFlags {}).append_of_cons flags]
    exact Text.readNat_le_append (c :: rest) t

/-- Behind a point the width is settled, and going on can only make the precision greater. -/
theorem precision_le_append {cs : List Char} {n : Nat} (given : (read cs).1.precision = some n)
    (t : List Char) :
    (read (cs ++ t)).1.width = (read cs).1.width ∧
      ∃ m, (read (cs ++ t)).1.precision = some m ∧ n ≤ m := by
  have written : (readPrecision (readWidth cs).2).1 = some n := given
  have point : (readWidth cs).2.head? = some '.' := by
    by_contra missing
    rw [readPrecision_of_head? missing] at written
    cases written
  obtain ⟨ds, left⟩ := List.head?_eq_some_iff.mp point
  have before : readWidth cs = ((readWidth cs).1, '.' :: ds) := by rw [← left]
  have number : (Text.readNat ds).1 = n := by
    rw [left] at written
    exact Option.some.inj written
  rw [read_eq_readWidth (cs ++ t), delimited_readWidth.append_of_cons before]
  exact ⟨rfl, _, rfl, number ▸ Text.readNat_le_append ds t⟩

end Layout

namespace Template

theorem delimited_readEscape (c : Char) :
    Text.Delimited (fun cs => readEscape (c :: cs)) (fun d => isOctalDigit d = false) := by
  cases letter : escapeLetter? c with
  | some d =>
    have read : (fun cs => readEscape (c :: cs)) = fun cs => (d, cs) := by
      simp only [readEscape, letter]
    exact read ▸ Text.delimited_none d _
  | none =>
    by_cases octal : isOctalDigit c
    · have read : (fun cs => readEscape (c :: cs)) = fun cs =>
          (Text.spanUpTo 2 isOctalDigit cs).map
            (fun digits => Text.charOfCode (Nat.ofDigitChars 8 (c :: digits) 0)) id := by
        simp [readEscape, letter, octal, octalPart, Text.spanUpTo]
      exact read ▸ (Text.delimited_spanUpTo 2 isOctalDigit).map _
    · have read : (fun cs => readEscape (c :: cs)) = fun cs => (c, cs) := by
        simp [readEscape, letter, octal]
      exact read ▸ Text.delimited_none c _

theorem readCaret_of_head? {cs : List Char}
    (unnamed : ∀ c ∈ cs.head?, c ≠ '?' ∧ isControlName c = false) : readCaret cs = ('^', cs) := by
  unfold readCaret
  split
  · rfl
  · exact absurd rfl (unnamed _ rfl).1
  · simp [(unnamed _ rfl).2]

theorem delimited_readCaret : Text.Delimited readCaret (· = '%') := by
  intro cs
  by_cases unnamed : ∀ c ∈ cs.head?, c ≠ '?' ∧ isControlName c = false
  · rw [readCaret_of_head? unnamed]
    refine ⟨[], rfl, fun t following => readCaret_of_head? ?_⟩
    rcases following with same | ended
    · rw [List.nil_append, same]
      exact unnamed
    · intro c member
      rw [ended c member]
      decide
  · simp only [not_forall] at unnamed
    obtain ⟨c, head, named⟩ := unnamed
    obtain ⟨ds, rfl⟩ := List.head?_eq_some_iff.mp head
    have read : ∃ d, ∀ t, readCaret (c :: t) = (d, t) := by
      by_cases question : c = '?'
      · subst question
        exact ⟨_, fun _ => rfl⟩
      · have control : isControlName c := by simpa [question] using named
        exact ⟨Char.ofNat (c.toNat % 32), fun t => by simp [readCaret, control]⟩
    obtain ⟨d, read⟩ := read
    rw [read]
    exact ⟨[c], rfl, fun t _ => read t⟩

theorem readPadding?_eq_some {cs rest : List Char} {text : String} :
    readPadding? cs = some (text, rest) ↔ ∃ body : List Char, (∀ c ∈ body, isPaddingChar c) ∧
      cs = '<' :: (body ++ '>' :: rest) ∧ text = String.ofList ('$' :: '<' :: body ++ ['>']) := by
  constructor
  · intro found
    unfold readPadding? at found
    split at found
    · rename_i cs
      split at found
      · rename_i left
        cases found
        refine ⟨cs.takeWhile isPaddingChar, List.all_eq_true.mp List.all_takeWhile, ?_, rfl⟩
        rw [← left, List.takeWhile_append_dropWhile]
      · cases found
    · cases found
  · rintro ⟨body, inside, rfl, rfl⟩
    exact readPadding?_source inside rest

/-- There is nothing more, or a directive follows. -/
def AtDirective (t : List Char) : Prop := ∀ c ∈ t.head?, c = '%'

theorem readPadding?_replace {front q t : List Char} (directive : AtDirective t)
    (missing : readPadding? (front ++ '%' :: q) = none) : readPadding? (front ++ t) = none := by
  cases found : readPadding? (front ++ t) with
  | none => rfl
  | some pair =>
    obtain ⟨body, inside, split, _⟩ := readPadding?_eq_some.mp found
    have padding (left : List Char) : readPadding? ('<' :: (body ++ ['>']) ++ left) ≠ none := by
      simp [readPadding?_source inside left]
    have whole : front ++ t = ('<' :: (body ++ ['>'])) ++ pair.2 := by simpa using split
    rcases List.append_eq_append_iff.mp whole with ⟨more, written, rfl⟩ | ⟨left, rfl, _⟩
    · cases more with
      | nil =>
        rw [List.append_nil] at written
        exact absurd (written ▸ missing) (padding _)
      | cons c more =>
        -- The directive would stand inside the padding.
        have percent : c = '%' := directive c rfl
        have member : '%' ∈ '<' :: (body ++ ['>']) := by rw [written, percent]; simp
        have outside : '%' ∉ body := fun member => absurd (inside _ member) (by decide)
        simp [outside] at member
    · rw [List.append_assoc] at missing
      exact absurd missing (padding _)

end Template

theorem Text.Delimited.replace {α : Type} {f : List Char → α × List Char} {ends : Char → Prop}
    (delimited : Text.Delimited f ends) (percent : ends '%') {cs front q : List Char} {a : α}
    (read : f cs = (a, front ++ '%' :: q)) :
    ∃ used, cs = used ++ (front ++ '%' :: q) ∧
      ∀ t, Template.AtDirective t → f (used ++ (front ++ t)) = (a, front ++ t) := by
  obtain ⟨used, split, same⟩ := delimited cs
  rw [read] at split same
  refine ⟨used, split, fun t directive => same _ ?_⟩
  cases front with
  | nil => exact .inr fun c member => directive c member ▸ percent
  | cons c front => exact .inl rfl

end TermTemplate
