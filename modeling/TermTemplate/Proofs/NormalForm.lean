import TermTemplate.Proofs.ReadBack

/-! Reading gives normal tokens, and inverts writing on them. -/
namespace TermTemplate

namespace Template

/-- What a reader gives has a property, whatever it reads. -/
def Reader.Yields {α : Type} (r : Reader α) (property : α → Prop) : Prop :=
  ∀ cs a rest, r cs = .ok (a, rest) → property a

theorem readParameter_yields : readParameter.Yields Action.Normal := by
  intro cs a rest h
  unfold readParameter at h
  split at h
  · cases h
  · rename_i c cs
    split at h
    · rename_i range
      cases h
      have high : c.toNat ≤ '9'.toNat := range.2
      show c.toNat - '1'.toNat < 9
      have one : '1'.toNat = 49 := rfl
      have nine : '9'.toNat = 57 := rfl
      omega
    · cases h

theorem natAbs_toInt_ofInt {n : Int} (fits : n.natAbs ≤ greatestInteger) :
    (Int64.ofInt n).toInt.natAbs ≤ greatestInteger := by
  have bound : greatestInteger = 2 ^ 63 - 1 := rfl
  rw [Int64.toInt_ofInt_of_le (by omega) (by omega)]
  exact fits

theorem readCharacter_yields : readCharacter.Yields (Action.Normal ∘ .integer) := by
  intro cs n rest h
  unfold readCharacter at h
  split at h
  · cases h
  · split at h
    · rename_i d _ _
      cases h
      have code : d.toNat < 0x110000 := by
        have valid : d.toNat < 0xd800 ∨ 0xdfff < d.toNat ∧ d.toNat < 0x110000 := d.valid
        omega
      have bound : greatestInteger = 2 ^ 63 - 1 := rfl
      rw [← Int64.ofInt_eq_ofNat]
      exact natAbs_toInt_ofInt (by omega)
    · cases h
    · cases h

theorem readMagnitude_yields {sign : Int} (unit : sign.natAbs = 1) :
    (readMagnitude sign).Yields (Action.Normal ∘ .integer) := by
  intro cs n rest h
  simp only [readMagnitude] at h
  split at h
  · cases h
  · rename_i fits
    split at h
    · cases h
      refine natAbs_toInt_ofInt ?_
      rw [Int.natAbs_mul, unit, Nat.one_mul]
      exact Nat.not_lt.mp fits
    · cases h
    · cases h

theorem readInteger_yields : readInteger.Yields (Action.Normal ∘ .integer) := by
  intro cs n rest h
  unfold readInteger at h
  split at h
  · exact readMagnitude_yields rfl _ _ _ h
  · exact readMagnitude_yields rfl _ _ _ h

theorem readField_yields : readField.Yields (Action.Normal ∘ .print) := by
  intro cs f rest h
  simp only [readField] at h
  split at h
  · cases h
  · rename_i width
    split at h
    · cases h
    · rename_i precision
      split at h
      · cases h
      · split at h
        · cases h
          refine ⟨Nat.not_lt.mp width, fun n given => Nat.not_lt.mp ?_⟩
          rwa [given] at precision
        · cases h

end Template

/-- Only a token that is no literal stands between the runs of characters. -/
def Template.Lexeme.Normal : Lexeme → Prop
  | char _ => True
  | token t => t.Normal ∧ t.isLiteral = false

theorem Token.ofLetter?_normal {c : Char} {t : Token} (found : ofLetter? c = some t) :
    (Template.Lexeme.token t).Normal := by
  unfold ofLetter? at found
  split at found
  case h_7 =>
    cases binary : BinaryOp.ofChar? c with
    | some op =>
      obtain rfl : .action (.binary op) = t := by simpa [binary] using found
      exact ⟨trivial, rfl⟩
    | none =>
      cases unary : UnaryOp.ofChar? c with
      | some op =>
        obtain rfl : .action (.unary op) = t := by simpa [binary, unary] using found
        exact ⟨trivial, rfl⟩
      | none =>
        obtain ⟨conversion, _, rfl⟩ : ∃ conversion, Conversion.ofChar? c = some conversion ∧
            .action (.print { conversion }) = t := by
          simpa [binary, unary, Option.map_eq_some_iff] using found
        exact ⟨Layout.normal_default, rfl⟩
  all_goals
    cases found
    exact ⟨trivial, rfl⟩

namespace Template

theorem Reader.Yields.action {α : Type} {r : Reader α} {f : α → Action}
    (yields : r.Yields (Action.Normal ∘ f)) : (r.action f).Yields Lexeme.Normal := by
  intro cs x rest h
  unfold Reader.action at h
  cases read : r cs with
  | error cause => simp [read, Except.map] at h
  | ok found =>
    simp only [read, Except.map, Except.ok.injEq, Prod.mk.injEq] at h
    exact h.1 ▸ ⟨yields cs found.1 found.2 read, rfl⟩

theorem readDirective_yields : readDirective.Yields Lexeme.Normal := by
  intro cs x rest h
  unfold readDirective at h
  split at h
  · cases h; trivial
  · split at h
    · rename_i letter
      cases h
      exact Token.ofLetter?_normal letter
    · have letters (f : Variable → Action) (each : ∀ v, (f v).Normal) :
          readVariable.Yields (Action.Normal ∘ f) := fun _ v _ _ => each v
      split at h
      · cases h; trivial
      · exact Reader.Yields.action (f := id) readParameter_yields _ _ _ h
      · exact (letters .set fun _ => trivial).action _ _ _ h
      · exact (letters .get fun _ => trivial).action _ _ _ h
      · exact readCharacter_yields.action _ _ _ h
      · exact readInteger_yields.action _ _ _ h
      · exact readField_yields.action _ _ _ h
      · split at h
        · exact readField_yields.action _ _ _ h
        · cases h

theorem readPadding?_isPadding {cs rest : List Char} {text : String}
    (h : readPadding? cs = some (text, rest)) : IsPadding text := by
  unfold readPadding? at h
  split at h
  · rename_i cs
    split at h
    · cases h
      exact ⟨cs.takeWhile isPaddingChar, List.all_eq_true.mp List.all_takeWhile, rfl⟩
    · cases h
  · cases h

theorem readLexeme_normal {c : Char} {cs rest : List Char} {x : Lexeme}
    (h : readLexeme c cs = .ok (x, rest)) : x.Normal := by
  unfold readLexeme at h
  split at h
  · exact readDirective_yields _ _ _ h
  · cases h; trivial
  · cases h; trivial
  · split at h
    · rename_i found
      cases h
      exact ⟨readPadding?_isPadding found, rfl⟩
    · cases h; trivial
  · cases h; trivial

theorem lexemes_normal {cs : List Char} {xs : List Lexeme} (read : lexemes cs = .ok xs) :
    ∀ x ∈ xs, x.Normal := by
  fun_induction lexemes cs generalizing xs with
  | case1 => cases read; simp
  | case2 => cases read
  | case3 c cs x rest found ih =>
    cases later : lexemes rest with
    | error f => simp [later, Except.map] at read
    | ok ys =>
      simp only [later, Except.map, Except.ok.injEq] at read
      rw [← read]
      exact List.forall_mem_cons.mpr ⟨readLexeme_normal found, ih later⟩

theorem Normal.cons {t : Token} {ts : List Token} (normal : t.Normal) (rest : Normal ts)
    (apart : t.isLiteral → ∀ u ∈ ts.head?, u.isLiteral = false) : Normal (t :: ts) := by
  refine ⟨List.forall_mem_cons.mpr ⟨normal, rest.each⟩, List.isChain_cons.mpr ⟨?_, rest.apart⟩⟩
  intro u member both
  exact absurd both.2 (by simp [apart both.1 u member])

theorem Normal.consText {text : String} {ts : List Token} (rest : Normal ts)
    (apart : ∀ u ∈ ts.head?, u.isLiteral = false) : Normal (consText text ts) := by
  unfold Template.consText
  split
  · exact rest
  · rename_i filled
    exact rest.cons (fun empty => filled (String.isEmpty_iff.mpr empty)) fun _ => apart

theorem normal_gather {xs : List Lexeme} (normal : ∀ x ∈ xs, x.Normal) (text : String) :
    Normal (gather text xs) := by
  induction xs generalizing text with
  | nil => exact Normal.consText ⟨by simp, .nil⟩ (by simp)
  | cons x xs ih =>
    obtain ⟨first, rest⟩ := List.forall_mem_cons.mp normal
    cases x with
    | char c => exact ih rest (text.push c)
    | token t =>
      have tokens : Normal (t :: gather "" xs) :=
        Normal.cons first.1 (ih rest "") fun literal => absurd literal (by simp [first.2])
      exact tokens.consText (by simpa using first.2)

/-- Templates are only ever read as normal tokens. -/
theorem normal_of_tokens {source : String} {ts : List Token} (read : tokens source = .ok ts) :
    Normal ts := by
  unfold tokens at read
  split at read
  · rename_i xs found
    cases read
    exact normal_gather (lexemes_normal found) ""
  · cases read

theorem join_nil (ts : List Token) : join ts [] = ts := by
  induction ts with
  | nil => rfl
  | cons t ts ih => cases t <;> simp [join, ih]

theorem join_cons {t : Token} (apart : t.isLiteral = false) (ts us : List Token) :
    join (t :: ts) us = t :: join ts us := by
  cases t with
  | literal text => cases apart
  | _ => rfl

theorem join_literal_append (s t : String) (us : List Token) :
    join [.literal (s ++ t)] us = join [.literal s] (join [.literal t] us) := by
  cases us with
  | nil => rfl
  | cons u us => cases u <;> simp [join, String.append_assoc]

theorem join_literal_cons {ts : List Token} (s : String)
    (apart : ∀ u ∈ ts.head?, u.isLiteral = false) (us : List Token) :
    join (.literal s :: ts) us = join [.literal s] (join ts us) := by
  cases ts with
  | nil => rfl
  | cons u ts =>
    have plain : u.isLiteral = false := apart u rfl
    rw [join_cons plain]
    cases u with
    | literal text => cases plain
    | _ => rfl

theorem gather_chars (text : String) (cs : List Char) (xs : List Lexeme) :
    gather text (cs.map .char ++ xs) = gather (text ++ String.ofList cs) xs := by
  induction cs generalizing text with
  | nil => simp
  | cons c cs ih =>
    rw [List.map_cons, List.cons_append, gather, ih]
    congr 1
    apply String.toList_injective
    simp

theorem gather_eq_join {xs : List Lexeme} (normal : ∀ x ∈ xs, x.Normal) {text : String}
    (filled : text ≠ "") : gather text xs = join [.literal text] (gather "" xs) := by
  induction xs generalizing text with
  | nil => simp [gather, consText, join, filled]
  | cons x xs ih =>
    obtain ⟨first, rest⟩ := List.forall_mem_cons.mp normal
    cases x with
    | char c =>
      have longer (s : String) : s.push c ≠ "" := by simp
      rw [gather, gather, ih rest (longer text), ih rest (longer ""), ← join_literal_append]
      simp
    | token t =>
      have plain := first.2
      cases t with
      | literal text => cases plain
      | _ => simp [gather, consText, join, filled]

theorem normal_pieces {t : Token} (normal : t.Normal) : ∀ x ∈ t.pieces, x.Normal := by
  cases t with
  | literal text => simp [Token.pieces, Lexeme.Normal]
  | _ => simpa [Token.pieces, Lexeme.Normal, Token.isLiteral] using normal

/-- Pieces that follow the pieces of normal tokens are gathered on their own, and then joined. -/
theorem gather_pieces {ts : List Token} (normal : Normal ts) {xs : List Lexeme}
    (following : ∀ x ∈ xs, x.Normal) :
    gather "" (ts.flatMap Token.pieces ++ xs) = join ts (gather "" xs) := by
  induction ts with
  | nil => rfl
  | cons t ts ih =>
    obtain ⟨first, rest⟩ := List.forall_mem_cons.mp normal.each
    obtain ⟨apart, chain⟩ := List.isChain_cons.mp normal.apart
    specialize ih ⟨rest, chain⟩
    cases t with
    | literal text =>
      have pieces : ∀ x ∈ ts.flatMap Token.pieces ++ xs, x.Normal := by
        intro x member
        rcases List.mem_append.mp member with written | member
        · obtain ⟨u, inside, piece⟩ := List.mem_flatMap.mp written
          exact normal_pieces (rest u inside) x piece
        · exact following x member
      have plain : ∀ u ∈ ts.head?, u.isLiteral = false := by
        intro u member
        simpa [Token.isLiteral] using apart u member
      rw [List.flatMap_cons, List.append_assoc, Token.pieces, gather_chars, join_literal_cons _ plain,
        ← ih, ← gather_eq_join pieces first]
      simp
    | _ => simpa [Token.pieces, gather, consText, join] using ih

theorem lexemes_failure_suffix {cs : List Char} {f : Failure} (failed : lexemes cs = .error f) :
    f.rest <:+ cs := by
  fun_induction lexemes cs generalizing f with
  | case1 => cases failed
  | case2 => cases failed; exact List.suffix_rfl
  | case3 c cs x rest found ih =>
    cases later : lexemes rest with
    | ok xs => simp [later, Except.map] at failed
    | error g =>
      simp only [later, Except.map, Except.error.injEq] at failed
      rw [← failed]
      exact (ih later).trans ((readLexeme_suffix found).trans (List.suffix_cons c cs))

theorem utf8ByteSize_suffix {rest : List Char} {t : String} (suffix : rest <:+ t.toList) :
    (String.ofList rest).utf8ByteSize ≤ t.utf8ByteSize := by
  obtain ⟨front, split⟩ := suffix
  have whole : t = String.ofList front ++ String.ofList rest := by
    apply String.toList_injective
    simp [split]
  rw [whole, String.utf8ByteSize_append]
  exact Nat.le_add_left _ _

/-- In front of any template, accepted or refused, normal tokens are read back as they were. -/
theorem tokens_source_append {ts : List Token} (normal : Normal ts) (t : String) :
    tokens (source ts ++ t) =
      match tokens t with
      | .ok us => .ok (join ts us)
      | .error e => .error { e with offset := e.offset + (source ts).utf8ByteSize } := by
  have read : lexemes (source ts ++ t).toList =
      (lexemes t.toList).map (ts.flatMap Token.pieces ++ ·) := by
    rw [String.toList_append, source, String.toList_ofList]
    exact readAs_source normal.each t.toList
  unfold tokens
  rw [read]
  cases found : lexemes t.toList with
  | ok xs => simp [Except.map, gather_pieces normal (lexemes_normal found)]
  | error f =>
    have inside := utf8ByteSize_suffix (lexemes_failure_suffix found)
    simp only [Except.map, String.utf8ByteSize_append, Except.error.injEq, Error.mk.injEq, true_and]
    omega

theorem tokens_source {ts : List Token} (normal : Normal ts) : tokens (source ts) = .ok ts := by
  have whole := tokens_source_append normal ""
  have empty : tokens "" = .ok [] := by simp [tokens, lexemes, gather, consText]
  simpa [empty, join_nil] using whole

/-- Reading and writing are inverse on exactly the normal tokens: nothing else is ever read, and
they are read back whatever follows them, with the errors behind them in their places. -/
theorem reading_inverts_writing :
    (∀ (s : String) (ts : List Token), tokens s = .ok ts → Normal ts) ∧
    (∀ (ts : List Token) (t : String), Normal ts →
      tokens (source ts ++ t) =
        match tokens t with
        | .ok us => .ok (join ts us)
        | .error e => .error { e with offset := e.offset + (source ts).utf8ByteSize }) ∧
    (∀ ts : List Token, Normal ts → tokens (source ts) = .ok ts) ∧
    (∀ (s : String) (ts : List Token), tokens s = .ok ts → tokens (source ts) = tokens s) := by
  refine ⟨fun _ _ => normal_of_tokens, fun _ t normal => tokens_source_append normal t,
    fun _ => tokens_source, ?_⟩
  intro s ts read
  rw [read]
  exact tokens_source (normal_of_tokens read)

theorem reading_inverts_writing_apart :
    tokens "$<5*/>%{-7}\\$<5>" =
      .ok [.padding "$<5*/>", .action (.integer (-7)), .literal "$<5>"] := by
  have normal : Normal [.padding "$<5*/>", .action (.integer (-7)), .literal "$"] := by
    refine ⟨?_, by decide⟩
    simp only [List.forall_mem_cons, List.not_mem_nil, false_imp_iff, implies_true, and_true]
    exact ⟨⟨['5', '*', '/'], by simp [isPaddingChar], by decide⟩,
      show (Action.integer (-7)).Normal by decide, show "$" ≠ "" by decide⟩
  have rest : tokens "<5>" = .ok [.literal "<5>"] :=
    reading_inverts_writing.2.2.1 [.literal "<5>"] ⟨by simp [Token.Normal], by decide⟩
  have whole := reading_inverts_writing.2.1 _ "<5>" normal
  rw [rest] at whole
  exact whole

end Template

end TermTemplate
