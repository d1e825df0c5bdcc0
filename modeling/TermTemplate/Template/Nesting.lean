import TermTemplate.Template.Token

/-! Tokens whose conditionals are complete, and the completion of any others. -/
namespace TermTemplate

def Token.isMark : Token → Bool
  | beginIf | thenArm | elseArm | endIf => true
  | _ => false

namespace Template

/-- Every `%?` has its own `%;`, and all other marks stand between the two. With `inside` there is a
conditional around the tokens, so that `%t` and `%e` may stand anywhere. -/
inductive Complete : Bool → List Token → Prop
  | nil {inside : Bool} : Complete inside []
  | plain {inside : Bool} {t : Token} {ts : List Token} (unmarked : t.isMark = false)
      (rest : Complete inside ts) : Complete inside (t :: ts)
  | thenArm {ts : List Token} (rest : Complete true ts) : Complete true (.thenArm :: ts)
  | elseArm {ts : List Token} (rest : Complete true ts) : Complete true (.elseArm :: ts)
  | conditional {inside : Bool} {body ts : List Token} (arms : Complete true body)
      (rest : Complete inside ts) : Complete inside (.beginIf :: body ++ .endIf :: ts)

/-- The tokens close exactly the `depth` conditionals around them and those that they open, and no
other mark of a conditional stands outside one. -/
inductive Nested : Nat → List Token → Prop
  | nil : Nested 0 []
  | beginIf {depth : Nat} {ts : List Token} (rest : Nested (depth + 1) ts) :
      Nested depth (.beginIf :: ts)
  | thenArm {depth : Nat} {ts : List Token} (rest : Nested (depth + 1) ts) :
      Nested (depth + 1) (.thenArm :: ts)
  | elseArm {depth : Nat} {ts : List Token} (rest : Nested (depth + 1) ts) :
      Nested (depth + 1) (.elseArm :: ts)
  | endIf {depth : Nat} {ts : List Token} (rest : Nested depth ts) :
      Nested (depth + 1) (.endIf :: ts)
  | literal {depth : Nat} {ts : List Token} (text : String) (rest : Nested depth ts) :
      Nested depth (.literal text :: ts)
  | padding {depth : Nat} {ts : List Token} (text : String) (rest : Nested depth ts) :
      Nested depth (.padding text :: ts)
  | action {depth : Nat} {ts : List Token} (a : Action) (rest : Nested depth ts) :
      Nested depth (.action a :: ts)
  | increment {depth : Nat} {ts : List Token} (rest : Nested depth ts) :
      Nested depth (.increment :: ts)

/-- Drops `%e` and `%;` where no conditional is open, opens one for `%t` there, and closes in the end
what is still open. -/
def repair : Nat → List Token → List Token
  | depth, [] => List.replicate depth .endIf
  | depth, .beginIf :: ts => .beginIf :: repair (depth + 1) ts
  | 0, .thenArm :: ts => .beginIf :: .thenArm :: repair 1 ts
  | 0, .elseArm :: ts => repair 0 ts
  | 0, .endIf :: ts => repair 0 ts
  | depth + 1, .endIf :: ts => .endIf :: repair depth ts
  | depth, t :: ts => t :: repair depth ts

end Template

end TermTemplate
