import TermTemplate.Proofs.ViableReaders

/-! A template is refused because of its beginning. The directive at fault is decided by what has
been read of it: a refusal stands whatever follows, and where only the end of the template is at
fault, there is a way to go on. What stands before the directive is accepted by itself. -/
namespace TermTemplate

theorem Text.Delimited.replace_decoded {f : List Char → Char × List Char} {ends : Char → Prop}
    (delimited : Text.Delimited f ends) (percent : ends '%') {cs front q : List Char}
    {x : Template.Lexeme}
    (read : (.ok (.char (f cs).1, (f cs).2) : Except Template.Cause (Template.Lexeme × List Char)) =
      .ok (x, front ++ '%' :: q)) :
    ∃ used, cs = used ++ (front ++ '%' :: q) ∧
      ∀ t, Template.AtDirective t →
        (.ok (.char (f (used ++ (front ++ t))).1, (f (used ++ (front ++ t))).2) :
          Except Template.Cause (Template.Lexeme × List Char)) = .ok (x, front ++ t) := by
  obtain ⟨rfl, left⟩ := Prod.mk.inj (Except.ok.inj read)
  have whole : f cs = ((f cs).1, front ++ '%' :: q) := by rw [← left]
  obtain ⟨used, split, same⟩ := delimited.replace percent whole
  exact ⟨used, split, fun t directive => by rw [same t directive]⟩

namespace Template

/-- The pieces before a directive are the same with another directive in its place, or with none. -/
theorem readLexeme_replace {c : Char} {cs front q : List Char} {x : Lexeme}
    (read : readLexeme c cs = .ok (x, front ++ '%' :: q)) :
    ∃ used, cs = used ++ (front ++ '%' :: q) ∧
      ∀ t, AtDirective t → readLexeme c (used ++ (front ++ t)) = .ok (x, front ++ t) := by
  by_cases percent : c = '%'
  · subst percent
    cases cs with
    | nil => simp [readLexeme, readDirective] at read
    | cons d ds =>
      obtain ⟨used, split, same⟩ := (viable_readDirective d).accepted read
      exact ⟨d :: used, congrArg (d :: ·) split, fun t _ => same _⟩
  by_cases others : c = '\\' ∨ c = '^' ∨ c = '$'
  · rcases others with rfl | rfl | rfl
    · cases cs with
      | nil => simp [readLexeme, readEscape] at read
      | cons d ds =>
        obtain ⟨used, split, same⟩ := (delimited_readEscape d).replace_decoded (by decide) read
        exact ⟨d :: used, congrArg (d :: ·) split, same⟩
    · exact delimited_readCaret.replace_decoded rfl read
    · cases found : readPadding? cs with
      | some pair =>
        simp only [readLexeme, found, Except.ok.injEq, Prod.mk.injEq] at read
        obtain ⟨rfl, left⟩ := read
        obtain ⟨body, inside, rfl, text⟩ := readPadding?_eq_some.mp found
        refine ⟨'<' :: (body ++ ['>']), by simp [left], fun t _ => ?_⟩
        simp [readLexeme, readPadding?_source inside (front ++ t), text]
      | none =>
        simp only [readLexeme, found, Except.ok.injEq, Prod.mk.injEq] at read
        obtain ⟨rfl, rfl⟩ := read
        refine ⟨[], rfl, fun t directive => ?_⟩
        simp [readLexeme, readPadding?_replace directive found]
  · rw [readLexeme_plain percent others] at read
    cases read
    exact ⟨[], rfl, fun t _ => readLexeme_plain percent others _⟩

theorem lexemes_cons {c : Char} {cs rest : List Char} {x : Lexeme}
    (read : readLexeme c cs = .ok (x, rest)) :
    lexemes (c :: cs) = (lexemes rest).map (x :: ·) := by
  rw [lexemes]
  split
  · rename_i failed
    rw [read] at failed
    cases failed
  · rename_i found
    rw [read] at found
    cases found
    rfl

theorem lexemes_cons_error {c : Char} {cs : List Char} {cause : Cause}
    (failed : readLexeme c cs = .error cause) : lexemes (c :: cs) = .error ⟨cause, c :: cs⟩ := by
  rw [lexemes]
  split
  · rename_i other
    rw [failed] at other
    cases other
    rfl
  · rename_i found
    rw [failed] at found
    cases found

theorem readLexeme_eq_error {c : Char} {cs : List Char} {cause : Cause}
    (failed : readLexeme c cs = .error cause) : c = '%' ∧ readDirective cs = .error cause := by
  by_cases percent : c = '%'
  · subst percent
    exact ⟨rfl, failed⟩
  by_cases others : c = '\\' ∨ c = '^' ∨ c = '$'
  · rcases others with rfl | rfl | rfl
    · cases failed
    · cases failed
    · cases found : readPadding? cs <;> simp [readLexeme, found] at failed
  · rw [readLexeme_plain percent others] at failed
    cases failed

/-- Where a template is refused: the directive at fault is refused by itself, and the pieces before
it are read with any other directive, or none, in its place. -/
theorem lexemes_eq_error {cs : List Char} {f : Failure} (failed : lexemes cs = .error f) :
    ∃ front q xs, cs = front ++ '%' :: q ∧ f.rest = '%' :: q ∧ readDirective q = .error f.cause ∧
      ∀ t, AtDirective t → lexemes (front ++ t) = (lexemes t).map (xs ++ ·) := by
  fun_induction lexemes cs generalizing f with
  | case1 => cases failed
  | case2 c cs cause refused =>
    cases failed
    obtain ⟨rfl, directive⟩ := readLexeme_eq_error refused
    exact ⟨[], cs, [], rfl, rfl, directive, fun t _ => ReadAs.nil t⟩
  | case3 c cs x rest found ih =>
    cases later : lexemes rest with
    | ok xs => simp [later, Except.map] at failed
    | error g =>
      simp only [later, Except.map, Except.error.injEq] at failed
      obtain ⟨front, q, xs, rfl, refused, directive, same⟩ := ih later
      obtain ⟨used, split, again⟩ := readLexeme_replace found
      subst failed
      refine ⟨c :: (used ++ front), q, x :: xs, by simp [split], refused, directive, fun t apart => ?_⟩
      have front : lexemes (c :: (used ++ (front ++ t))) = (lexemes (front ++ t)).map (x :: ·) :=
        lexemes_cons (again t apart)
      rw [List.cons_append, List.append_assoc, front, same t apart]
      cases lexemes t <;> rfl

/-- The offset of a refusal is the length of what stands before the directive at fault. -/
theorem tokens_of_failure {s p : String} {f : Failure} (failed : lexemes s.toList = .error f)
    (split : s = p ++ String.ofList f.rest) : tokens s = .error ⟨f.cause, p.utf8ByteSize⟩ := by
  have size : s.utf8ByteSize = p.utf8ByteSize + (String.ofList f.rest).utf8ByteSize := by
    rw [← String.utf8ByteSize_append, ← split]
  simp only [tokens, failed, size, Nat.add_sub_cancel]

theorem tokens_eq_error {s : String} {e : Error} (failed : tokens s = .error e) :
    ∃ front q xs, s.toList = front ++ '%' :: q ∧ e.offset = (String.ofList front).utf8ByteSize ∧
      readDirective q = .error e.cause ∧
      ∀ t, AtDirective t → lexemes (front ++ t) = (lexemes t).map (xs ++ ·) := by
  cases found : lexemes s.toList with
  | ok xs => rw [tokens, found] at failed; cases failed
  | error f =>
    obtain ⟨front, q, xs, split, rest, directive, same⟩ := lexemes_eq_error found
    have whole : s = String.ofList front ++ String.ofList f.rest := by
      apply String.toList_injective
      simp [split, rest]
    rw [tokens_of_failure found whole] at failed
    cases failed
    exact ⟨front, q, xs, split, rfl, directive, same⟩

theorem refusal_stands {s : String} {e : Error} (failed : tokens s = .error e)
    (other : e.cause ≠ .unexpectedEnd) (t : String) : tokens (s ++ t) = .error e := by
  obtain ⟨front, q, xs, split, offset, directive, same⟩ := tokens_eq_error failed
  have still : readLexeme '%' (q ++ t.toList) = .error e.cause := by
    cases q with
    | nil => cases directive
    | cons c q => exact (viable_readDirective c).refused directive other _
  have refused : lexemes (s ++ t).toList = .error ⟨e.cause, '%' :: (q ++ t.toList)⟩ := by
    rw [String.toList_append, split, List.append_assoc, same]
    · rw [List.cons_append, lexemes_cons_error still]
      rfl
    · intro c member
      exact (Option.some.inj member).symm
  have whole : s ++ t = String.ofList front ++ String.ofList ('%' :: (q ++ t.toList)) := by
    apply String.toList_injective
    simp [split]
  rw [tokens_of_failure refused whole, ← offset]

theorem unexpectedEnd_completed {s : String} {e : Error} (failed : tokens s = .error e)
    (ended : e.cause = .unexpectedEnd) : ∃ t ts, tokens (s ++ t) = .ok ts := by
  obtain ⟨front, q, xs, split, offset, directive, same⟩ := tokens_eq_error failed
  rw [ended] at directive
  have completed : ∃ t x, readLexeme '%' (q ++ t) = .ok (x, []) := by
    cases q with
    | nil => cases directive
    | cons c q => exact (viable_readDirective c).cut directive
  obtain ⟨t, x, read⟩ := completed
  have accepted : lexemes (s ++ String.ofList t).toList = .ok (xs ++ [x]) := by
    rw [String.toList_append, String.toList_ofList, split, List.append_assoc, same]
    · rw [List.cons_append, lexemes_cons read, lexemes]
      rfl
    · intro c member
      exact (Option.some.inj member).symm
  exact ⟨String.ofList t, _, by rw [tokens, accepted]⟩

/-- A refusal is located at the directive at fault and decided there: the template before it is
accepted, and whatever follows, the refusal stands. Where only the end was at fault, something can
follow that is accepted. So accepted templates have beginnings that are accepted or end too soon. -/
theorem refusal_decided_at_directive :
    (∀ (s : String) (e : Error), tokens s = .error e →
      (∃ p q : String, s = p ++ "%" ++ q ∧ e.offset = p.utf8ByteSize ∧ ∃ ts, tokens p = .ok ts) ∧
      (e.cause ≠ .unexpectedEnd → ∀ t : String, tokens (s ++ t) = .error e) ∧
      (e.cause = .unexpectedEnd → ∃ (t : String) (ts : List Token), tokens (s ++ t) = .ok ts)) ∧
    (∀ (p t : String) (ts : List Token), tokens (p ++ t) = .ok ts →
      (∃ us, tokens p = .ok us) ∨ ∃ offset, tokens p = .error ⟨.unexpectedEnd, offset⟩) := by
  constructor
  · intro s e failed
    refine ⟨?_, refusal_stands failed, unexpectedEnd_completed failed⟩
    obtain ⟨front, q, xs, split, offset, _, same⟩ := tokens_eq_error failed
    refine ⟨String.ofList front, String.ofList q, ?_, offset, gather "" xs, ?_⟩
    · apply String.toList_injective
      simp [split]
    · have accepted := same [] (by simp [AtDirective])
      rw [List.append_nil, lexemes] at accepted
      rw [tokens, String.toList_ofList, accepted]
      simp [Except.map]
  · intro p t ts accepted
    cases read : tokens p with
    | ok us => exact .inl ⟨us, rfl⟩
    | error e =>
      by_cases ended : e.cause = .unexpectedEnd
      · exact .inr ⟨e.offset, by rw [← ended]⟩
      · rw [refusal_stands read ended t] at accepted
        cases accepted

/-- The bytes of `é` count, and neither the octal escape nor the padding reaches into the directive. -/
theorem refusal_decided_at_directive_escapes :
    tokens "é\\1$<2%p0%q" = .error ⟨.invalidParameter '0', 7⟩ ∧
    (∀ t : String, tokens ("é\\1$<2%p0%q" ++ t) = .error ⟨.invalidParameter '0', 7⟩) ∧
    tokens "%'\\7" = .error ⟨.unexpectedEnd, 0⟩ ∧
    ∃ (t : String) (ts : List Token), tokens ("%'\\7" ++ t) = .ok ts := by
  have refused : tokens "é\\1$<2%p0%q" = .error ⟨.invalidParameter '0', 7⟩ := by decide +kernel
  have cut : tokens "%'\\7" = .error ⟨.unexpectedEnd, 0⟩ := by decide +kernel
  exact ⟨refused, (refusal_decided_at_directive.1 _ _ refused).2.1 (by simp), cut,
    (refusal_decided_at_directive.1 _ _ cut).2.2 rfl⟩

end Template

end TermTemplate
