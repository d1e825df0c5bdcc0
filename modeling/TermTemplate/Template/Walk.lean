import TermTemplate.Template.Token

/-! The meaning of tokens without code. Tokens act where they stand, and an arm that is not taken is
passed over by looking for the mark that ends it. -/
namespace TermTemplate.Template

/-- Passes over tokens and the mark that stops it: `%;`, and with `toElse` also `%e`, of the
conditional `nesting` levels out. Gives whether that conditional was closed, and the tokens behind
the mark; there are none when the mark is missing. -/
def skipArm (toElse : Bool) (nesting : Nat) : List Token → Bool × List Token
  | [] => (true, [])
  | .beginIf :: ts => skipArm toElse (nesting + 1) ts
  | .endIf :: ts => if nesting = 0 then (true, ts) else skipArm toElse (nesting - 1) ts
  | .elseArm :: ts => if toElse ∧ nesting = 0 then (false, ts) else skipArm toElse nesting ts
  | _ :: ts => skipArm toElse nesting ts

theorem skipArm_suffix (toElse : Bool) (nesting : Nat) (ts : List Token) :
    (skipArm toElse nesting ts).2 <:+ ts := by
  fun_induction skipArm toElse nesting ts with
  | case1 => exact List.suffix_rfl
  | case2 _ _ ih => exact ih.trans (List.suffix_cons _ _)
  | case3 => exact List.suffix_cons _ _
  | case4 _ _ _ ih => exact ih.trans (List.suffix_cons _ _)
  | case5 => exact List.suffix_cons _ _
  | case6 _ _ _ ih => exact ih.trans (List.suffix_cons _ _)
  | case7 _ _ _ _ _ _ ih => exact ih.trans (List.suffix_cons _ _)

/-- Runs tokens that `depth` open conditionals surround. -/
def walk (keepPadding : Bool) (ps : Parameters) (depth : Nat) (ts : List Token) (s : State) :
    State :=
  match ts with
  | [] => s
  | .literal text :: ts => walk keepPadding ps depth ts (s.write text)
  | .padding text :: ts => walk keepPadding ps depth ts (if keepPadding then s.write text else s)
  | .action a :: ts => walk keepPadding ps depth ts (a.apply ps s)
  | .increment :: ts => walk keepPadding ps depth ts s
  | .beginIf :: ts => walk keepPadding ps (depth + 1) ts s
  | .thenArm :: ts =>
    if s.top.isTruthy then walk keepPadding ps (max depth 1) ts s.drop
    else
      let landing := skipArm true 0 ts
      walk keepPadding ps (if landing.1 then depth - 1 else max depth 1) landing.2 s.drop
  | .elseArm :: ts =>
    if depth = 0 then walk keepPadding ps 0 ts s
    else walk keepPadding ps (depth - 1) (skipArm false 0 ts).2 s
  | .endIf :: ts => walk keepPadding ps (depth - 1) ts s
termination_by ts.length
decreasing_by
  all_goals simp only [List.length_cons]
  · omega
  · omega
  · omega
  · omega
  · omega
  · omega
  · have := (skipArm_suffix true 0 ts).length_le; omega
  · omega
  · have := (skipArm_suffix false 0 ts).length_le; omega
  · omega

/-- Runs a whole template. One `%i` anywhere counts for all of it. -/
def interpret (keepPadding : Bool) (ts : List Token) (params : List Value) (statics : Variables) :
    State :=
  walk keepPadding ⟨params, ts.contains .increment⟩ 0 ts { statics }

end TermTemplate.Template
