import TermTemplate.Text.Quoted

/-! Why a template is refused, and where. -/
namespace TermTemplate.Template

inductive Cause
  | unrecognizedOption (c : Char)
  | invalidVariable (c : Char)
  | invalidParameter (c : Char)
  | malformedCharacter
  | integerOverflow
  | malformedInteger
  | widthOverflow
  | precisionOverflow
  | unexpectedEnd
  deriving DecidableEq, Repr

structure Error where
  cause : Cause
  /-- Counts the bytes of UTF-8 text before the `%` of the directive at fault. -/
  offset : Nat
  deriving DecidableEq, Repr

def Cause.char? : Cause → Option Char
  | unrecognizedOption c | invalidVariable c | invalidParameter c => some c
  | _ => none

def Error.message (e : Error) : String :=
  let place := "offset " ++ String.ofList (Nat.toDigits 10 e.offset)
  match e.cause with
  | .unrecognizedOption c => "Unrecognized format option " ++ Text.quoted c ++ " at " ++ place
  | .invalidVariable c => "Invalid variable name " ++ Text.quoted c ++ " at " ++ place
  | .invalidParameter c => "Invalid parameter index " ++ Text.quoted c ++ " at " ++ place
  | .malformedCharacter => "Malformed character constant at " ++ place
  | .integerOverflow => "Integer constant too large at " ++ place
  | .malformedInteger => "Integer constant malformed at " ++ place
  | .widthOverflow => "Overflow in format width at " ++ place
  | .precisionOverflow => "Overflow in format precision at " ++ place
  | .unexpectedEnd => "Directive at " ++ place ++ " is cut short by the end of the string"

end TermTemplate.Template
