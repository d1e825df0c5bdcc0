import TermTemplate.Proofs.CheckedRendering

/-! The layout of strings and characters. A string field prints the first characters of its text, as
many as precision allows, and a character field one character, whatever its precision. Either is
filled with blanks to the width. Precision and width count characters, also where the text is cut at
a byte. -/
namespace TermTemplate

namespace Text

/-- The numbers that name characters: those that are not negative, not surrogates and not beyond
the last code point. -/
def IsScalar (code : Int) : Prop := 0 ≤ code ∧ code < 0xD800 ∨ 0xDFFF < code ∧ code ≤ 0x10FFFF

/-- The character that is printed for a number. Zero and numbers that name none have stand-ins. -/
structure Denotes (code : Int) (c : Char) : Prop where
  zero : code = 0 → c = '\u0080'
  named : code ≠ 0 → IsScalar code → (c.toNat : Int) = code
  unnamed : ¬IsScalar code → c = '\uFFFD'

theorem isScalar_toNat (c : Char) : IsScalar c.toNat := by
  have valid : c.toNat < 0xD800 ∨ 0xDFFF < c.toNat ∧ c.toNat < 0x110000 := c.valid
  unfold IsScalar
  omega

theorem denotes_charOfCode (code : Int) : Denotes code (charOfCode code) := by
  by_cases zero : code = 0
  · subst zero
    exact ⟨fun _ => rfl, fun other => absurd rfl other,
      fun unnamed => absurd (isScalar_toNat '\x00') unnamed⟩
  · by_cases scalar : IsScalar code
    · have valid : 0 < code ∧ code.toNat.isValidChar := by
        unfold IsScalar at scalar
        unfold Nat.isValidChar
        omega
      refine ⟨fun same => absurd same zero, fun _ _ => ?_, fun unnamed => absurd scalar unnamed⟩
      have code_toNat : (Char.ofNat code.toNat).toNat = code.toNat := by
        rw [Char.ofNat, dif_pos valid.2]
        rfl
      rw [charOfCode, if_neg zero, if_pos valid, code_toNat]
      omega
    · have invalid : ¬(0 < code ∧ code.toNat.isValidChar) := by
        unfold IsScalar at scalar
        unfold Nat.isValidChar
        omega
      refine ⟨fun same => absurd same zero, fun _ named => absurd named scalar, fun _ => ?_⟩
      rw [charOfCode, if_neg zero, if_neg invalid]
      rfl

theorem Denotes.eq_of_toNat {c d : Char} (printed : Denotes c.toNat d) (full : c ≠ '\x00') :
    d = c := by
  have nonzero : (c.toNat : Int) ≠ 0 := by
    intro zero
    exact full (Char.toNat_inj.mp (Int.ofNat.inj zero))
  have code := printed.named nonzero (isScalar_toNat c)
  exact Char.toNat_inj.mp (Int.ofNat.inj code)

end Text

namespace Layout

/-- The body is the front of the text: all of it, or no more characters than precision allows. -/
structure Cuts (l : Layout) (whole body : List Char) : Prop where
  front : body <+: whole
  unlimited : l.precision = none → body.length = whole.length
  limited : ∀ n ∈ l.precision, body.length = min n whole.length

/-- The text is the body and blanks, behind it or before it, over the whole width and no more than
it and the body ask for. -/
def Fills (l : Layout) (body text : List Char) : Prop :=
  ∃ blanks, text.length = max l.width body.length ∧
    (l.left = true → text = body ++ List.replicate blanks ' ') ∧
    (l.left = false → text = List.replicate blanks ' ' ++ body)

theorem cuts_cut (l : Layout) (cs : List Char) : l.Cuts cs (l.cut cs) := by
  unfold cut
  cases given : l.precision with
  | none => exact ⟨List.prefix_rfl, fun _ => rfl, by simp [given]⟩
  | some n =>
    refine ⟨List.take_prefix n cs, by simp [given], fun m same => ?_⟩
    rw [given] at same
    cases same
    exact List.length_take

theorem fills_fillText (l : Layout) (cs : List Char) : l.Fills cs (l.fillText cs) := by
  refine ⟨l.width - cs.length, ?_, fun left => ?_, fun right => ?_⟩
  · unfold fillText
    split
    · exact List.length_rightpad
    · exact List.length_leftpad
  · rw [fillText, if_pos left]
    rfl
  · rw [fillText, right]
    rfl

theorem Fills.eq_of_width_zero {l : Layout} {body text : List Char} (filled : l.Fills body text)
    (none : l.width = 0) : text = body := by
  obtain ⟨blanks, size, left, right⟩ := filled
  have same : text.length = body.length := by rw [size, none, Nat.zero_max]
  have empty : blanks = 0 := by
    cases side : l.left with
    | true => simpa [left side] using same
    | false => simpa [right side] using same
  cases side : l.left with
  | true => simp [left side, empty]
  | false => simp [right side, empty]

end Layout

theorem Value.toInt_ofChar (c : Char) : (Value.ofChar c).toInteger.toInt = c.toNat := by
  have scalar := Text.isScalar_toNat c
  unfold Text.IsScalar at scalar
  exact Int64.toInt_ofNat_of_lt (by omega)

namespace Field

theorem fills_render_string (l : Layout) (v : Option Value) :
    l.Fills (l.cut ((v.map Value.display).getD [])) (render ⟨.string, l⟩ v).toList := by
  rw [render, String.toList_ofList]
  exact l.fills_fillText _

theorem fills_render_char (l : Layout) (v : Option Value) :
    l.Fills [Text.charOfCode ((v.map Value.toInteger).getD 0).toInt]
      (render ⟨.char, l⟩ v).toList := by
  rw [render, String.toList_ofList]
  exact l.fills_fillText _

/-- A string field prints the front of the text that its value shows as, and a character field the
character that its value names, each filled with blanks and with nothing else. No value shows as the
empty text and counts as 0. -/
theorem render_text (l : Layout) :
    (∀ v : Option Value, ∃ body : List Char,
      l.Cuts ((v.map Value.display).getD []) body ∧
      (∀ w ∈ v, Checked.cut? l (String.ofList w.display) = some (String.ofList body)) ∧
      l.Fills body (render ⟨.string, l⟩ v).toList) ∧
    (∀ v : Option Value, ∃ c : Char,
      Text.Denotes ((v.map Value.toInteger).getD 0).toInt c ∧
      l.Fills [c] (render ⟨.char, l⟩ v).toList) ∧
    (∀ c : Char, c ≠ '\x00' → l.width = 0 →
      render ⟨.char, l⟩ (some (.ofChar c)) = String.singleton c) ∧
    (∀ s : String, l.width = 0 → l.precision = none →
      render ⟨.string, l⟩ (some (.text s)) = s) := by
  refine ⟨fun v => ⟨_, l.cuts_cut _, ?_, fills_render_string l v⟩,
    fun v => ⟨_, Text.denotes_charOfCode _, fills_render_char l v⟩, ?_, ?_⟩
  · rintro w rfl
    exact Checked.cut?_eq l w.display
  · -- The code of a character is within the words, so it comes back from its value.
    intro c full none
    have alone := (fills_render_char l (some (.ofChar c))).eq_of_width_zero none
    have named : Text.charOfCode (Value.ofChar c).toInteger.toInt = c := by
      have printed := Text.denotes_charOfCode (Value.ofChar c).toInteger.toInt
      rw [Value.toInt_ofChar] at printed ⊢
      exact printed.eq_of_toNat full
    rw [← String.toList_inj, alone, String.toList_singleton]
    exact congrArg (fun d => [d]) named
  · intro s none whole
    have alone := (fills_render_string l (some (.text s))).eq_of_width_zero none
    rw [← String.toList_inj, alone, Layout.cut, whole]
    rfl

/-- Two characters of two bytes each are two characters of the width. -/
theorem render_text_accents :
    render ⟨.string, { width := 4, precision := some 2, left := true }⟩ (some (.text "éèê")) =
      "éè  " ∧
    render ⟨.char, { precision := some 0 }⟩ (some (.ofChar 'é')) = "é" ∧
    render ⟨.string, {}⟩ (some (.text "éèê")) = "éèê" := by
  refine ⟨?_, (render_text _).2.2.1 'é' (by decide) rfl, (render_text _).2.2.2 "éèê" rfl rfl⟩
  obtain ⟨body, cuts, -, blanks, size, filled, -⟩ :=
    (render_text { width := 4, precision := some 2, left := true }).1 (some (.text "éèê"))
  have front : body = ['é', 'è'] := by
    have taken := List.prefix_iff_eq_take.mp cuts.front
    rw [cuts.limited 2 rfl] at taken
    exact taken
  have fill : blanks = 2 := by
    rw [filled rfl, front] at size
    simpa using size
  rw [← String.toList_inj, filled rfl, front, fill]
  rfl

end Field

end TermTemplate
