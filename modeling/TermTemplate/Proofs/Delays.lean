import Mathlib.Data.Fintype.Option
import TermTemplate.Proofs.Delimited
import TermTemplate.Proofs.PaddingErasure
import TermTemplate.Proofs.StructuredRun

/-! Padding and its documented form, `$<digits[.digit][*][/]>`. Reading goes by the characters, not
by their order: whatever is made of digits, points, stars and slashes is taken for padding. So delays
are dropped from the output as they should be, and text that is no delay is lost with them. -/
namespace TermTemplate

open Template

/-- What padding is documented to hold. -/
structure Delay where
  digits : List Char
  /-- The digit behind the point, if there is one. -/
  tenth : Option (Fin 10)
  /-- Marked by `*`. -/
  proportional : Bool
  /-- Marked by `/`. -/
  mandatory : Bool
  digits_mem : ∀ c ∈ digits, c.isDigit
  digits_ne_nil : digits ≠ []

namespace Delay

def ending (tenth : Option (Fin 10)) (proportional mandatory : Bool) : List Char :=
  tenth.elim [] (fun d => ['.', Nat.digitChar d]) ++
    ((if proportional then ['*'] else []) ++ (if mandatory then ['/'] else []))

def chars (d : Delay) : List Char := d.digits ++ ending d.tenth d.proportional d.mandatory

theorem head?_ending (tenth : Option (Fin 10)) (proportional mandatory : Bool) :
    ∀ c ∈ (ending tenth proportional mandatory).head?, c.isDigit = false := by
  -- The first part that is there decides: the point, the star or the slash.
  intro c member
  cases tenth with
  | some d => cases member; rfl
  | none =>
    cases proportional with
    | true => cases member; rfl
    | false =>
      cases mandatory with
      | true => cases member; rfl
      | false => cases member

end Delay

/-- The characters between `$<` and `>` are those of a delay. -/
def IsDelay (cs : List Char) : Prop := ∃ d : Delay, d.chars = cs

/-- There is one place where the digits can end, and few ways to go on from there. -/
theorem isDelay_iff (cs : List Char) :
    IsDelay cs ↔ cs.takeWhile Char.isDigit ≠ [] ∧ ∃ tenth proportional mandatory,
      cs.dropWhile Char.isDigit = Delay.ending tenth proportional mandatory := by
  constructor
  · rintro ⟨d, rfl⟩
    have stop := Delay.head?_ending d.tenth d.proportional d.mandatory
    have rest : d.chars.dropWhile Char.isDigit = Delay.ending d.tenth d.proportional d.mandatory :=
      congrArg Prod.snd (Text.readNat_append d.digits_mem stop)
    refine ⟨?_, _, _, _, rest⟩
    rw [Delay.chars, List.takeWhile_append_of_pos d.digits_mem]
    exact List.append_ne_nil_of_left_ne_nil d.digits_ne_nil _
  · rintro ⟨nonempty, tenth, proportional, mandatory, rest⟩
    refine ⟨⟨cs.takeWhile Char.isDigit, tenth, proportional, mandatory,
      List.all_eq_true.mp List.all_takeWhile, nonempty⟩, ?_⟩
    rw [Delay.chars, ← rest, List.takeWhile_append_dropWhile]

instance (cs : List Char) : Decidable (IsDelay cs) := decidable_of_iff _ (isDelay_iff cs).symm

example : IsDelay "007.5/".toList ∧ ¬IsDelay "1.25".toList ∧ ¬IsDelay "5/*".toList := by decide

theorem Template.isPaddingChar_iff {c : Char} :
    isPaddingChar c ↔ c.isDigit ∨ c = '.' ∨ c = '*' ∨ c = '/' := by
  simp [isPaddingChar, or_assoc]

/-- What can stand between `$<` and `>`: the characters of delays, in any order. -/
structure PaddingBody where
  chars : List Char
  chars_mem : ∀ c ∈ chars, c.isDigit ∨ c = '.' ∨ c = '*' ∨ c = '/'

namespace PaddingBody

def text (b : PaddingBody) : String := String.ofList ('$' :: '<' :: b.chars ++ ['>'])

theorem isPaddingChar_of_mem (b : PaddingBody) : ∀ c ∈ b.chars, isPaddingChar c :=
  fun c member => isPaddingChar_iff.mpr (b.chars_mem c member)

theorem isPadding_text (b : PaddingBody) : IsPadding b.text :=
  ⟨b.chars, b.isPaddingChar_of_mem, rfl⟩

theorem exists_text {text : String} (padding : IsPadding text) :
    ∃ b : PaddingBody, b.text = text := by
  obtain ⟨chars, inside, rfl⟩ := padding
  exact ⟨⟨chars, fun c member => isPaddingChar_iff.mp (inside c member)⟩, rfl⟩

/-- The first `>` ends it, so what follows does not matter. -/
theorem chars_eq_of_append {a b : PaddingBody} {rest : String} (same : a.text = b.text ++ rest) :
    a.chars = b.chars := by
  have front (b : PaddingBody) (rest : List Char) :=
    readPadding?_source b.isPaddingChar_of_mem rest
  have whole : '<' :: (a.chars ++ ['>']) = '<' :: (b.chars ++ '>' :: rest.toList) := by
    simpa [text, ← String.toList_inj] using same
  have read := front a []
  rw [whole, front b rest.toList] at read
  have texts : String.ofList ('$' :: '<' :: b.chars ++ ['>']) = a.text :=
    congrArg Prod.fst (Option.some.inj read)
  simpa using (String.ofList_injective texts).symm

theorem tokens_text (b : PaddingBody) : tokens b.text = .ok [.padding b.text] := by
  have read := tokens_of_readAs (readAs_token (t := .padding b.text) b.isPadding_text)
  rwa [Token.source, String.ofList_toList] at read

theorem holds_text {b : PaddingBody} {t : Token} : Holds b.text t ↔ t = .padding b.text := by
  rw [holds_iff b.tokens_text, List.mem_singleton]

/-- Delays are read as padding, and anything else as literal text. -/
def ReadAsDocumented (b : PaddingBody) : Prop :=
  (tokens b.text = .ok [.padding b.text] ↔ IsDelay b.chars) ∧
  (¬IsDelay b.chars → tokens b.text = .ok [.literal b.text])

theorem readAsDocumented_iff (b : PaddingBody) : b.ReadAsDocumented ↔ IsDelay b.chars := by
  constructor
  · intro documented
    exact documented.1.mp b.tokens_text
  · intro delay
    exact ⟨⟨fun _ => delay, fun _ => b.tokens_text⟩, fun other => absurd delay other⟩

def between (before after : String) (b : PaddingBody) : List Token :=
  [.literal before, .padding b.text, .literal after]

theorem compile_between (before after : String) (b : PaddingBody) (options : Options) :
    ∃ m, Method.compile (Template.source (b.between before after)) options = .ok m ∧
      ∀ (statics : Variables) (params : List Value), m.callWith statics params =
        (before ++ (if options.keepPadding then b.text else "") ++ after, statics) := by
  have read : ReadAs ((b.between before after).flatMap Token.source)
      ((b.between before after).flatMap Token.pieces) := by
    refine .flatMap fun t member => ?_
    simp only [between, List.mem_cons, List.not_mem_nil, or_false] at member
    rcases member with rfl | rfl | rfl
    · exact readAs_literal before
    · exact readAs_token b.isPadding_text
    · exact readAs_literal after
  refine ⟨_, Method.compile_eq_ok.mpr ⟨_, tokens_of_readAs read, rfl⟩, fun statics params => ?_⟩
  rw [Method.callWith, Program.execute, Program.ofTokens, run_ofTokens, walk_gather]
  simp only [between, walk]
  cases options.keepPadding <;> simp [State.write]

theorem source_between (b : PaddingBody) : Template.source (b.between "" "") = b.text := by
  simp [Template.source, between, Token.source]

end PaddingBody

/-- Whatever the template is called with, its output is the one with padding kept, less pieces that
are delays. -/
def DropsOnlyDelays (source : String) : Prop :=
  ∀ kept plain, Method.compile source ⟨true⟩ = .ok kept → Method.compile source = .ok plain →
    ∀ (statics : Variables) (params : List Value), ∃ pieces : List Piece,
      (∀ text, .padding text ∈ pieces → ∃ b : PaddingBody, IsDelay b.chars ∧ b.text = text) ∧
      (kept.callWith statics params).1 = String.join (pieces.map Piece.content) ∧
      (plain.callWith statics params).1 = String.join (pieces.filterMap Piece.text?)

theorem dropsOnlyDelays_of_holds {source : String}
    (documented : ∀ b : PaddingBody, Holds source (.padding b.text) → IsDelay b.chars) :
    DropsOnlyDelays source := by
  intro kept plain keeping dropping statics params
  obtain ⟨ts, read, rfl⟩ := Method.compile_eq_ok.mp keeping
  obtain ⟨us, again, rfl⟩ := Method.compile_eq_ok.mp dropping
  obtain rfl : ts = us := Except.ok.inj (read.symm.trans again)
  obtain ⟨_, _, _, pieces, found, outputs⟩ := Program.execute_padded ts params statics
  refine ⟨pieces, fun text member => ?_, outputs⟩
  have normal : IsPadding text := (normal_of_tokens read).each _ (found text member)
  obtain ⟨b, rfl⟩ := PaddingBody.exists_text normal
  exact ⟨b, documented b ((holds_iff read).mpr (found _ member)), rfl⟩

theorem Piece.exists_padding {pieces : List Piece}
    (dropped : String.join (pieces.filterMap Piece.text?) = "")
    (filled : String.join (pieces.map Piece.content) ≠ "") :
    ∃ text rest, .padding text ∈ pieces ∧
      String.join (pieces.map Piece.content) = text ++ rest := by
  induction pieces with
  | nil => exact absurd rfl filled
  | cons piece pieces ih =>
    cases piece with
    | padding text => exact ⟨text, _, .head _, String.join_cons⟩
    | text t =>
      simp only [List.filterMap_cons, Piece.text?, String.join_cons,
        String.append_eq_empty_iff] at dropped
      obtain ⟨rfl, dropped⟩ := dropped
      simp only [List.map_cons, Piece.content, String.join_cons, String.empty_append] at filled ⊢
      obtain ⟨text, rest, member, split⟩ := ih dropped filled
      exact ⟨text, rest, .tail _ member, split⟩

theorem dropsOnlyDelays_text (b : PaddingBody) : DropsOnlyDelays b.text ↔ IsDelay b.chars := by
  constructor
  · intro drops
    obtain ⟨kept, keeping, keeps⟩ := b.compile_between "" "" ⟨true⟩
    obtain ⟨plain, dropping, loses⟩ := b.compile_between "" "" {}
    rw [b.source_between] at keeping dropping
    obtain ⟨pieces, delays, whole, rest⟩ := drops kept plain keeping dropping .initial []
    simp only [keeps, loses, if_true, Bool.false_eq_true, if_false, String.empty_append,
      String.append_empty] at whole rest
    have filled : String.join (pieces.map Piece.content) ≠ "" := by
      rw [← whole]
      simp [PaddingBody.text]
    -- Nothing is left of the text, so a delay stands at its front, and that is the whole of it.
    obtain ⟨text, behind, member, split⟩ := Piece.exists_padding rest.symm filled
    obtain ⟨d, delay, rfl⟩ := delays text member
    rwa [PaddingBody.chars_eq_of_append (whole.trans split)]
  · intro delay
    refine dropsOnlyDelays_of_holds fun other held => ?_
    have same : other.text = b.text ++ "" := by simpa using PaddingBody.holds_text.mp held
    rwa [PaddingBody.chars_eq_of_append same]

/-- Padding is treated as documented where it is a delay, and only there. Other text of the same
characters is read as padding just as well, and it is missing from between whatever text stands
around it, unless padding is kept. A template whose padding is all delays loses nothing else. -/
theorem padding_beyond_delays (b : PaddingBody) (source : String) :
    (b.ReadAsDocumented ↔ IsDelay b.chars) ∧
    (DropsOnlyDelays b.text ↔ IsDelay b.chars) ∧
    tokens b.text = .ok [.padding b.text] ∧
    (∀ (before after : String) (options : Options),
      ∃ m, Method.compile (Template.source (b.between before after)) options = .ok m ∧
        ∀ (statics : Variables) (params : List Value), m.callWith statics params =
          (before ++ (if options.keepPadding then b.text else "") ++ after, statics)) ∧
    ((∀ c : PaddingBody, Holds source (.padding c.text) → IsDelay c.chars) →
      DropsOnlyDelays source) := by
  refine ⟨b.readAsDocumented_iff, dropsOnlyDelays_text b, b.tokens_text, ?_, ?_⟩
  · exact fun before after options => b.compile_between before after options
  · exact fun documented => dropsOnlyDelays_of_holds documented

/-- Two delays, one of them with all that a delay can have, and a number with two places, which is
none. -/
theorem padding_beyond_delays_places :
    (∀ c : PaddingBody, Holds "a$<12.5*/>%p1%db$<3>" (.padding c.text) → IsDelay c.chars) ∧
    DropsOnlyDelays "a$<12.5*/>%p1%db$<3>" ∧ ¬DropsOnlyDelays "$<1.25>" := by
  have read : tokens "a$<12.5*/>%p1%db$<3>" =
      .ok [.literal "a", .padding "$<12.5*/>", .action (.parameter 0),
        .action (.print ⟨.decimal, {}⟩), .literal "b", .padding "$<3>"] := by decide +kernel
  have written {c : PaddingBody} (cs : List Char)
      (same : c.text = String.ofList ('$' :: '<' :: cs ++ ['>'])) : c.chars = cs := by
    simpa using String.ofList_injective same
  have documented : ∀ c : PaddingBody,
      Holds "a$<12.5*/>%p1%db$<3>" (.padding c.text) → IsDelay c.chars := by
    intro c held
    have member := (holds_iff read).mp held
    simp only [List.mem_cons, Token.padding.injEq, reduceCtorEq, List.not_mem_nil, false_or,
      or_false] at member
    rcases member with first | second
    · rw [written "12.5*/".toList first]
      decide
    · rw [written "3".toList second]
      decide
  let places : PaddingBody := ⟨"1.25".toList, by simp⟩
  have other : ¬IsDelay places.chars := by decide
  obtain ⟨-, lost, -, -, drops⟩ := padding_beyond_delays places "a$<12.5*/>%p1%db$<3>"
  exact ⟨documented, drops documented, fun delays => other (lost.mp delays)⟩

/-- Nothing at all between `$<` and `>` is no delay, but padding all the same, and it is lost. -/
theorem empty_padding_lost :
    ¬IsDelay [] ∧ tokens "$<>" = .ok [.padding "$<>"] ∧
    ∃ m, Method.compile "a$<>b" = .ok m ∧ m.call [] = "ab" := by
  have empty : tokens "$<>" = .ok [.padding "$<>"] := by decide +kernel
  have read : tokens "a$<>b" = .ok [.literal "a", .padding "$<>", .literal "b"] := by decide +kernel
  exact ⟨by decide, empty, _, Method.compile_eq_ok.mpr ⟨_, read, rfl⟩, by decide +kernel⟩

end TermTemplate
