import Mathlib.Data.Int.ModEq
import TermTemplate.Proofs.IntegerConstants

/-! Arithmetic on words against arithmetic on unbounded integers. A template that adds, subtracts
and multiplies prints the exact result modulo the number of words, wherever it wraps on the way.
Quotient and remainder are exact except where there is no quotient, and both are zero there. -/
namespace TermTemplate

open Template

theorem Parameters.get_plain (params : List Value) (index : Nat) :
    get ⟨params, false⟩ index = params.getD index default := by
  rw [get, List.getD_eq_getElem?_getD]
  cases params[index]?.getD default <;> rfl

/-- The operators that do not depend on how large their operands are. -/
inductive RingOp
  | add
  | subtract
  | multiply
  deriving DecidableEq, Repr

namespace RingOp

def operator : RingOp → BinaryOp
  | add => .add
  | subtract => .subtract
  | multiply => .multiply

def onIntegers : RingOp → Int → Int → Int
  | add, x, y => x + y
  | subtract, x, y => x - y
  | multiply, x, y => x * y

theorem apply_operator (op : RingOp) (x y : Value) :
    op.operator.apply x y = .integer (op.operator.onWords x.toInteger y.toInteger) := by
  cases op <;> rfl

/-- Words are reached from integers by a homomorphism. -/
theorem onWords_ofInt (op : RingOp) (x y : Int) :
    op.operator.onWords (Int64.ofInt x) (Int64.ofInt y) = Int64.ofInt (op.onIntegers x y) := by
  cases op with
  | add => exact (Int64.ofInt_add x y).symm
  | subtract => exact (Int64.ofInt_sub x y).symm
  | multiply => exact (Int64.ofInt_mul x y).symm

end RingOp

/-- Sums, differences and products of parameters and constants. -/
inductive RingExpr
  /-- Counted from 0. -/
  | parameter (index : Fin 9)
  /-- Within the bounds of its notation. -/
  | constant (n : Int64) (writable : n.toInt.natAbs ≤ greatestInteger)
  | binary (op : RingOp) (left right : RingExpr)

namespace RingExpr

def value (arguments : Fin 9 → Int) : RingExpr → Int
  | parameter index => arguments index
  | constant n _ => n.toInt
  | binary op left right => op.onIntegers (left.value arguments) (right.value arguments)

def toExpr : RingExpr → Expr
  | parameter index => .parameter index
  | constant n _ => .integer n
  | binary op left right => .binary op.operator left.toExpr right.toExpr

/-- Operands first, and the result printed in decimal. -/
def source (e : RingExpr) : String := String.ofList (e.toExpr.source ++ ['%', 'd'])

theorem writable_toExpr (e : RingExpr) : e.toExpr.Writable := by
  induction e with
  | parameter => trivial
  | constant n writable => exact writable
  | binary op left right first second => exact ⟨first, second⟩

/-- The integers that parameters count as. A missing one counts as 0. -/
def arguments (params : List Value) (index : Fin 9) : Int :=
  (params.getD index default).toInteger.toInt

theorem toInteger_get (params : List Value) (index : Fin 9) :
    (Parameters.get ⟨params, false⟩ index).toInteger = Int64.ofInt (arguments params index) := by
  rw [Parameters.get_plain, arguments, Int64.ofInt_toInt]

/-- The word that an expression comes to is the exact value, wrapped once. -/
theorem toInteger_eval (e : RingExpr) (params : List Value) (s : State) :
    (e.toExpr.eval ⟨params, false⟩ s).toInteger = Int64.ofInt (e.value (arguments params)) := by
  -- Operators see integers only, so a text among the parameters makes no difference.
  induction e with
  | parameter index => exact toInteger_get params index
  | constant n _ => exact (Int64.ofInt_toInt n).symm
  | binary op left right first second =>
    rw [toExpr, Expr.eval, RingOp.apply_operator, Value.toInteger, first, second,
      RingOp.onWords_ofInt, value]

end RingExpr

theorem toInt_modEq_iff (w : Int64) (n : Int) : w.toInt ≡ n [ZMOD 2 ^ 64] ↔ w = Int64.ofInt n := by
  have low := w.le_toInt
  have high := w.toInt_lt
  rw [eq_comm, Int64.ofInt_eq_iff_bmod_eq_toInt, Int.ModEq, Int.bmod]
  omega

/-- What division promises: an exact quotient and remainder toward zero where there are any. -/
structure Division (x y quotient remainder : Int64) : Prop where
  exact : y ≠ 0 → ¬(x = Int64.minValue ∧ y = -1) →
    x.toInt = quotient.toInt * y.toInt + remainder.toInt ∧
    |remainder.toInt| < |y.toInt| ∧
    (remainder.toInt = 0 ∨ remainder.toInt.sign = x.toInt.sign)
  undefined : y = 0 ∨ (x = Int64.minValue ∧ y = -1) → quotient = 0 ∧ remainder = 0

namespace BinaryOp

theorem hasQuotient_iff (x y : Int64) :
    hasQuotient x y ↔ y ≠ 0 ∧ ¬(x = Int64.minValue ∧ y = -1) := by
  simp [hasQuotient, imp_iff_not_or]

theorem toInt_div {x y : Int64} (defined : ¬(x = Int64.minValue ∧ y = -1)) :
    (x / y).toInt = x.toInt.tdiv y.toInt := by
  by_cases least : x = Int64.minValue
  · exact Int64.toInt_div_of_ne_right x y fun minus => defined ⟨least, minus⟩
  · exact Int64.toInt_div_of_ne_left x y least

end BinaryOp

theorem sign_tmod (x y : Int) : x.tmod y = 0 ∨ (x.tmod y).sign = x.sign := by
  rcases Int.lt_trichotomy (x.tmod y) 0 with negative | zero | positive
  · have below : x < 0 := by
      by_contra above
      exact absurd (Int.tmod_nonneg y (Int.not_lt.mp above)) (Int.not_le.mpr negative)
    exact .inr (by rw [Int.sign_eq_neg_one_of_neg negative, Int.sign_eq_neg_one_of_neg below])
  · exact .inl zero
  · have above : 0 < x := by
      by_contra below
      have mirrored := Int.tmod_nonneg y (Int.neg_nonneg_of_nonpos (Int.not_lt.mp below))
      rw [Int.neg_tmod] at mirrored
      omega
    exact .inr (by rw [Int.sign_eq_one_of_pos positive, Int.sign_eq_one_of_pos above])

theorem division_onWords (x y : Int64) :
    Division x y (BinaryOp.divide.onWords x y) (BinaryOp.modulo.onWords x y) := by
  constructor
  · intro divisor defined
    have quotient := (BinaryOp.hasQuotient_iff x y).mpr ⟨divisor, defined⟩
    have nonzero : y.toInt ≠ 0 := by
      rwa [ne_eq, ← Int64.toInt_zero, Int64.toInt_inj]
    simp only [BinaryOp.onWords, if_pos quotient, BinaryOp.toInt_div defined, Int64.toInt_mod]
    refine ⟨?_, ?_, sign_tmod _ _⟩
    · rw [Int.add_comm, Int.tmod_add_tdiv_mul]
    · have bound : x.toInt.natAbs % y.toInt.natAbs < y.toInt.natAbs := Nat.mod_lt _ (by omega)
      rw [Int.abs_eq_natAbs, Int.abs_eq_natAbs, Int.natAbs_tmod]
      exact Int.ofNat_lt.mpr bound
  · intro undefined
    have none : ¬BinaryOp.hasQuotient x y := by
      rw [BinaryOp.hasQuotient_iff]
      tauto
    simp only [BinaryOp.onWords, if_neg none, and_self]

/-- Sums, differences and products of parameters and constants compile to templates that print the one
word congruent to the exact result: the result itself where it is a word, whatever wraps on the way.
Quotients and remainders are exact wherever there is a quotient. -/
theorem arithmetic_modulo_words (options : Options) :
    (∀ e : RingExpr, ∃ m, Method.compile e.source options = .ok m ∧
      ∀ (params : List Value) (statics : Variables),
        let exact := e.value (RingExpr.arguments params)
        (∃ w : Int64, (∀ u : Int64, u.toInt ≡ exact [ZMOD 2 ^ 64] ↔ u = w) ∧
          m.callWith statics params = (toString w.toInt, statics)) ∧
        (-2 ^ 63 ≤ exact → exact < 2 ^ 63 →
          m.callWith statics params = (toString exact, statics))) ∧
    (∀ (ps : Parameters) (s : State) (x y : Value), ∃ quotient remainder : Int64,
      (Action.binary .divide).apply ps ((s.push x).push y) = s.push (.integer quotient) ∧
      (Action.binary .modulo).apply ps ((s.push x).push y) = s.push (.integer remainder) ∧
      Division x.toInteger y.toInteger quotient remainder) := by
  constructor
  · intro e
    obtain ⟨m, compiled, calls⟩ := Expr.compile_decimal e.writable_toExpr options
    refine ⟨m, compiled, fun params statics => ?_⟩
    have printed := calls params statics
    rw [e.toInteger_eval] at printed
    refine ⟨⟨_, fun u => toInt_modEq_iff u _, printed⟩, fun low high => ?_⟩
    rw [printed, Int64.toInt_ofInt_of_le low high]
  · intro ps s x y
    exact ⟨_, _, rfl, rfl, division_onWords x.toInteger y.toInteger⟩

/-- The greatest word, given as a text, plus one and minus one: the sum wraps, the result fits. -/
theorem arithmetic_modulo_words_greatest :
    ∃ m, Method.compile "%p1%{1}%+%{1}%-%d" = .ok m ∧
      m.callWith .initial [.text "9223372036854775807"] = ("9223372036854775807", .initial) := by
  let one : RingExpr := .constant 1 (by decide)
  let e : RingExpr := .binary .subtract (.binary .add (.parameter 0) one) one
  have exact : e.value (RingExpr.arguments [.text "9223372036854775807"]) =
      9223372036854775807 := by decide +kernel
  obtain ⟨m, compiled, calls⟩ := (arithmetic_modulo_words {}).1 e
  obtain ⟨-, printed⟩ := calls [.text "9223372036854775807"] .initial
  rw [exact] at printed
  exact ⟨m, compiled, printed (by decide) (by decide)⟩

end TermTemplate
