import TermTemplate.Template.Token

/-! Templates written from tokens. -/
namespace TermTemplate

namespace Layout

def flagsSource (l : Layout) : List Char :=
  (if l.left then ['-'] else []) ++ (if l.sign then ['+'] else []) ++
  (if l.alternate then ['#'] else []) ++ (if l.space then [' '] else [])

def widthSource (l : Layout) : List Char := if l.width = 0 then [] else Nat.toDigits 10 l.width

def precisionSource (l : Layout) : List Char :=
  match l.precision with
  | none => []
  | some n => '.' :: Nat.toDigits 10 n

/-- Nothing is written where it is the default. -/
def source (l : Layout) : List Char := l.flagsSource ++ l.widthSource ++ l.precisionSource

end Layout

/-- Behind a colon every layout can be written. -/
def Field.source (f : Field) : List Char := ':' :: f.layout.source ++ [f.conversion.letter]

def Action.source : Action → List Char
  | parameter index => 'p' :: Nat.toDigits 10 (index + 1)
  | integer n => '\x7b' :: Text.decimal n.toInt ++ ['\x7d']
  | set v => ['P', v.letter]
  | get v => ['g', v.letter]
  | length => ['l']
  | binary op => [op.letter]
  | unary op => [op.letter]
  | print f => f.source

/-- A character of literal text, protected if it would start anything else. -/
def literalSource (c : Char) : List Char :=
  if c = '%' then ['%', '%'] else if c = '\\' ∨ c = '^' ∨ c = '$' then ['\\', c] else [c]

def Token.source : Token → List Char
  | literal text => text.toList.flatMap literalSource
  | padding text => text.toList
  | action a => '%' :: a.source
  | increment => ['%', 'i']
  | beginIf => ['%', '?']
  | thenArm => ['%', 't']
  | elseArm => ['%', 'e']
  | endIf => ['%', ';']

def Template.source (ts : List Token) : String := String.ofList (ts.flatMap Token.source)

end TermTemplate
