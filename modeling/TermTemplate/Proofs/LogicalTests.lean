import TermTemplate.Proofs.StructuredRun

/-! Logical operators against conditionals. A test takes a text for true when it is not empty, but
the operators `%!`, `%A` and `%O` work on the integer that it counts as. Where the two agree, a test
that is negated or joined by an operator runs the arm that swapped or nested conditionals run. -/
namespace TermTemplate

open Template

namespace Value

/-- Both notions of truth agree on the value. -/
def Decided (v : Value) : Prop := v.isTruthy = true ↔ v.toInteger ≠ 0

theorem isTruthy_integer (n : Int64) : (Value.integer n).isTruthy = true ↔ n ≠ 0 := by
  simp [isTruthy]

theorem isTruthy_answer (p : Prop) [Decidable p] :
    (Value.integer (if p then 1 else 0)).isTruthy = true ↔ p := by
  by_cases holds : p
  · simp [isTruthy_integer, holds]
  · simp [isTruthy_integer, holds]

theorem isTruthy_text (s : String) : (Value.text s).isTruthy = true ↔ s ≠ "" := by
  simp [isTruthy]

/-- They part on no integer, and on a text only if it is not empty and counts as 0. -/
theorem decided_iff (v : Value) :
    v.Decided ↔ (∃ n, v = .integer n) ∨ v = .text "" ∨ v.toInteger ≠ 0 := by
  cases v with
  | integer n => simp [Decided, isTruthy_integer, toInteger]
  | text s =>
    by_cases empty : s = ""
    · subst empty
      simp only [Decided, isTruthy_text]
      simp [toInteger, Text.leadingInteger, Text.readWord]
    · simp [Decided, isTruthy_text, empty]

end Value

theorem UnaryOp.isTruthy_logicalNot (v : Value) :
    (logicalNot.apply v).isTruthy = true ↔ v.toInteger = 0 :=
  Value.isTruthy_answer _

namespace BinaryOp

theorem isTruthy_logicalAnd (x y : Value) :
    (logicalAnd.apply x y).isTruthy = true ↔ x.toInteger ≠ 0 ∧ y.toInteger ≠ 0 :=
  Value.isTruthy_answer _

theorem isTruthy_logicalOr (x y : Value) :
    (logicalOr.apply x y).isTruthy = true ↔ x.toInteger ≠ 0 ∨ y.toInteger ≠ 0 :=
  Value.isTruthy_answer _

end BinaryOp

namespace Stmt

/-- One test with two arms, `%? test %t arm %e otherwise %;`. -/
def ifElse (test : Expr) (arm otherwise : Stmt) : Stmt := .cond (.lastElse test arm otherwise)

example : (ifElse (.unary .logicalNot (.parameter 0)) (.text "X") (.text "Y")).source =
    "%?%p1%!%tX%eY%;".toList := by decide

theorem exec_ifElse (ps : Parameters) (s : State) (test : Expr) (arm otherwise : Stmt) :
    (ifElse test arm otherwise).exec ps s =
      if (test.eval ps s).isTruthy then arm.exec ps s else otherwise.exec ps s := by
  rw [ifElse, exec, Chain.exec]

theorem writable_ifElse {test : Expr} {arm otherwise : Stmt} (tested : test.Writable)
    (run : arm.Writable) (skipped : otherwise.Writable) : (ifElse test arm otherwise).Writable :=
  ⟨tested, run, skipped⟩

section Arms

variable {ps : Parameters} {s : State} {c₁ c₂ : Expr}

theorem exec_ifElse_of_iff {test : Expr} {holds : Prop} [Decidable holds]
    (decides : (test.eval ps s).isTruthy = true ↔ holds) (x y : Stmt) :
    (ifElse test x y).exec ps s = if holds then x.exec ps s else y.exec ps s := by
  simp only [exec_ifElse, decides]

theorem exec_not (first : (c₁.eval ps s).Decided) (x y : Stmt) :
    (ifElse (.unary .logicalNot c₁) x y).exec ps s =
      if (c₁.eval ps s).isTruthy then y.exec ps s else x.exec ps s := by
  rw [← ite_not]
  refine exec_ifElse_of_iff ?_ x y
  exact (UnaryOp.isTruthy_logicalNot _).trans ((not_congr first).trans not_not).symm

theorem exec_and (first : (c₁.eval ps s).Decided) (second : (c₂.eval ps s).Decided) (x y : Stmt) :
    (ifElse (.binary .logicalAnd c₁ c₂) x y).exec ps s =
      if (c₁.eval ps s).isTruthy ∧ (c₂.eval ps s).isTruthy then x.exec ps s
      else y.exec ps s := by
  refine exec_ifElse_of_iff ?_ x y
  exact (BinaryOp.isTruthy_logicalAnd _ _).trans (and_congr first second).symm

theorem exec_or (first : (c₁.eval ps s).Decided) (second : (c₂.eval ps s).Decided) (x y : Stmt) :
    (ifElse (.binary .logicalOr c₁ c₂) x y).exec ps s =
      if (c₁.eval ps s).isTruthy ∨ (c₂.eval ps s).isTruthy then x.exec ps s
      else y.exec ps s := by
  refine exec_ifElse_of_iff ?_ x y
  exact (BinaryOp.isTruthy_logicalOr _ _).trans (or_congr first second).symm

theorem exec_nested_and (x y : Stmt) :
    (ifElse c₁ (ifElse c₂ x y) y).exec ps s =
      if (c₁.eval ps s).isTruthy ∧ (c₂.eval ps s).isTruthy then x.exec ps s
      else y.exec ps s := by
  simp only [exec_ifElse, ite_and]

theorem exec_nested_or (x y : Stmt) :
    (ifElse c₁ x (ifElse c₂ x y)).exec ps s =
      if (c₁.eval ps s).isTruthy ∨ (c₂.eval ps s).isTruthy then x.exec ps s
      else y.exec ps s := by
  simp only [exec_ifElse, ite_or]

theorem exec_parted {t : String} (value : c₁.eval ps s = .text t) (full : t ≠ "")
    (zero : (Value.text t).toInteger = 0) (x y : Stmt) :
    (ifElse (.unary .logicalNot c₁) x y).exec ps s = x.exec ps s ∧
    (ifElse c₁ y x).exec ps s = y.exec ps s := by
  have negated := (UnaryOp.isTruthy_logicalNot (.text t)).mpr zero
  have plain := (Value.isTruthy_text t).mpr full
  simp only [exec_ifElse, Expr.eval, value, negated, plain, if_true, and_self]

end Arms

/-- The state that a call of the written template ends in, if the template is accepted. -/
def outcome? (p : Stmt) (options : Options) (params : List Value) (statics : Variables) :
    Option State :=
  (Method.compile (String.ofList p.source) options).toOption.map (·.program.execute params statics)

theorem outcome?_of_exec {p : Stmt} (writable : p.Writable) (options : Options)
    {params : List Value} {statics : Variables} {final : State}
    (runs : p.exec ⟨params, false⟩ { statics } = final) :
    p.outcome? options params statics = some final := by
  obtain ⟨m, compiled, executes⟩ := compile_of_readAs (readAs_source writable) options
  simp only [outcome?, compiled, Except.toOption, Option.map_some, executes, runs]

/-- Where both notions of truth agree, a test with an operator runs the arm that swapped or nested
tests run. On a text that is not empty and counts as 0, the negated test and the plain one both run
their first arms. -/
theorem logical_tests_branch (c₁ c₂ : Expr) (x y : Stmt) (first : c₁.Writable)
    (second : c₂.Writable) (arm : x.Writable) (otherwise : y.Writable) (options : Options)
    (params : List Value) (statics : Variables) :
    let outcome (p : Stmt) := p.outcome? options params statics
    let run (p : Stmt) := p.exec ⟨params, false⟩ { statics }
    let v₁ := c₁.eval ⟨params, false⟩ { statics }
    let v₂ := c₂.eval ⟨params, false⟩ { statics }
    (v₁.Decided →
      let final := if v₁.isTruthy then run y else run x
      outcome (ifElse (.unary .logicalNot c₁) x y) = some final ∧
      outcome (ifElse c₁ y x) = some final) ∧
    (v₁.Decided → v₂.Decided →
      let both := if v₁.isTruthy ∧ v₂.isTruthy then run x else run y
      let either := if v₁.isTruthy ∨ v₂.isTruthy then run x else run y
      outcome (ifElse (.binary .logicalAnd c₁ c₂) x y) = some both ∧
      outcome (ifElse c₁ (ifElse c₂ x y) y) = some both ∧
      outcome (ifElse (.binary .logicalOr c₁ c₂) x y) = some either ∧
      outcome (ifElse c₁ x (ifElse c₂ x y)) = some either) ∧
    (∀ v : Value, v.Decided ↔ (∃ n, v = .integer n) ∨ v = .text "" ∨ v.toInteger ≠ 0) ∧
    (∀ t, v₁ = .text t → t ≠ "" → v₁.toInteger = 0 →
      outcome (ifElse (.unary .logicalNot c₁) x y) = some (run x) ∧
      outcome (ifElse c₁ y x) = some (run y)) := by
  intro outcome run v₁ v₂
  have swapped : (ifElse c₁ y x).Writable := writable_ifElse first otherwise arm
  have negated : (ifElse (.unary .logicalNot c₁) x y).Writable :=
    writable_ifElse first arm otherwise
  have joined (op : BinaryOp) : (ifElse (.binary op c₁ c₂) x y).Writable :=
    writable_ifElse ⟨first, second⟩ arm otherwise
  have inner : (ifElse c₂ x y).Writable := writable_ifElse second arm otherwise
  refine ⟨fun decided => ⟨?_, ?_⟩, fun decided₁ decided₂ => ⟨?_, ?_, ?_, ?_⟩,
    Value.decided_iff, ?_⟩
  · exact outcome?_of_exec negated options (exec_not decided x y)
  · exact outcome?_of_exec swapped options (exec_ifElse _ _ c₁ y x)
  · exact outcome?_of_exec (joined _) options (exec_and decided₁ decided₂ x y)
  · exact outcome?_of_exec (writable_ifElse first inner otherwise) options (exec_nested_and x y)
  · exact outcome?_of_exec (joined _) options (exec_or decided₁ decided₂ x y)
  · exact outcome?_of_exec (writable_ifElse first arm inner) options (exec_nested_or x y)
  · intro t value full zero
    rw [value] at zero
    obtain ⟨runsArm, runsOther⟩ := exec_parted value full zero x y
    exact ⟨outcome?_of_exec negated options runsArm, outcome?_of_exec swapped options runsOther⟩

/-- A number joined with the empty text, and a text that is true although it counts as 0. The first
arm also stores a variable. -/
theorem logical_tests_branch_texts :
    let x : Stmt := .seq (.text "X") (.store (.static 0) (.integer 1))
    let y : Stmt := .text "Y"
    let ends (p : Stmt) (params : List Value) :=
      (p.outcome? {} params .initial).map fun final => (final.output, final.statics.get 0)
    ends (ifElse (.binary .logicalAnd (.parameter 0) (.parameter 1)) x y)
      [.integer 3, .text ""] = some ("Y", .integer 0) ∧
    ends (ifElse (.parameter 0) (ifElse (.parameter 1) x y) y)
      [.integer 3, .text ""] = some ("Y", .integer 0) ∧
    ends (ifElse (.binary .logicalOr (.parameter 0) (.parameter 1)) x y)
      [.integer 3, .text ""] = some ("X", .integer 1) ∧
    (Value.text "no").toInteger = 0 ∧
    ends (ifElse (.unary .logicalNot (.parameter 0)) x y) [.text "no"] = some ("X", .integer 1) ∧
    ends (ifElse (.parameter 0) y x) [.text "no"] = some ("Y", .integer 0) := by
  intro x y ends
  have zero : (Value.text "no").toInteger = 0 := by decide +kernel
  have number : (Value.integer 3).Decided := (Value.decided_iff _).mpr (.inl ⟨3, rfl⟩)
  have empty : (Value.text "").Decided := (Value.decided_iff _).mpr (.inr (.inl rfl))
  have small : (Expr.integer 1).Writable := show (Action.integer 1).Normal by decide
  have tests := logical_tests_branch (.parameter 0) (.parameter 1) x y trivial trivial
    ⟨trivial, small⟩ trivial {}
  obtain ⟨-, joined, -, -⟩ := tests [.integer 3, .text ""] .initial
  obtain ⟨both, nested, either, -⟩ := joined number empty
  obtain ⟨-, -, -, parted⟩ := tests [.text "no"] .initial
  obtain ⟨negated, plain⟩ := parted "no" rfl (by decide) zero
  have seen {p : Stmt} {params : List Value} {final : State}
      (ended : p.outcome? {} params .initial = some final) :
      ends p params = some (final.output, final.statics.get 0) := by
    simp only [ends, ended, Option.map_some]
  refine ⟨?_, ?_, ?_, zero, ?_, ?_⟩
  · exact (seen both).trans (by decide)
  · exact (seen nested).trans (by decide)
  · exact (seen either).trans (by decide)
  · exact (seen negated).trans (by decide)
  · exact (seen plain).trans (by decide)

end Stmt

end TermTemplate
