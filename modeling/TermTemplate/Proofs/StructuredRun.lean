import TermTemplate.Method
import TermTemplate.Proofs.CompiledRun
import TermTemplate.Proofs.NormalForm
import TermTemplate.Structured.Printer

/-! A structured template, written down, compiled and called, does what its statements mean. The way
there is by its tokens: they are what is read from its text, up to the joining of literals, and a
walk over them runs each statement in one step. -/
namespace TermTemplate

open Template

@[simp] theorem State.write_empty (s : State) : s.write "" = s := by
  simp [State.write]

@[simp] theorem State.write_write (s : State) (first second : String) :
    (s.write first).write second = s.write (first ++ second) := by
  simp [State.write, String.append_assoc]

@[simp] theorem Action.apply_print (ps : Parameters) (s : State) (v : Value) (f : Field) :
    Action.apply ps (s.push v) (.print f) = s.write (f.render (some v)) := rfl

namespace Template

theorem gather_token {t : Token} (plain : t.isLiteral = false) (text : String) (ts : List Token) :
    gather text ((t :: ts).flatMap Token.pieces) =
      consText text (t :: gather "" (ts.flatMap Token.pieces)) := by
  cases t with
  | literal text => cases plain
  | _ => rfl

theorem gather_literal (text more : String) (ts : List Token) :
    gather text ((.literal more :: ts).flatMap Token.pieces) =
      gather (text ++ more) (ts.flatMap Token.pieces) := by
  rw [List.flatMap_cons, Token.pieces, gather_chars, String.ofList_toList]

theorem skipArm_consText (toElse : Bool) (nesting : Nat) (text : String) (ts : List Token) :
    skipArm toElse nesting (consText text ts) = skipArm toElse nesting ts := by
  unfold consText
  split <;> rfl

theorem skipArm_gather (toElse : Bool) (nesting : Nat) (text : String) (ts : List Token) :
    skipArm toElse nesting (gather text (ts.flatMap Token.pieces)) =
      ((skipArm toElse nesting ts).1,
        gather "" ((skipArm toElse nesting ts).2.flatMap Token.pieces)) := by
  induction ts generalizing nesting text with
  | nil => exact skipArm_consText toElse nesting text []
  | cons t ts ih =>
    cases t with
    | literal more =>
      rw [gather_literal]
      exact ih nesting _
    | beginIf =>
      rw [gather_token rfl, skipArm_consText]
      exact ih (nesting + 1) ""
    | elseArm =>
      rw [gather_token rfl, skipArm_consText, skipArm, skipArm]
      split
      · rfl
      · exact ih nesting ""
    | endIf =>
      rw [gather_token rfl, skipArm_consText, skipArm, skipArm]
      split
      · rfl
      · exact ih (nesting - 1) ""
    | _ =>
      rw [gather_token rfl, skipArm_consText]
      exact ih nesting ""

theorem walk_consText (keepPadding : Bool) (ps : Parameters) (depth : Nat) (text : String)
    (ts : List Token) (s : State) :
    walk keepPadding ps depth (consText text ts) s =
      walk keepPadding ps depth ts (s.write text) := by
  unfold consText
  split
  · rename_i empty
    rw [String.isEmpty_iff.mp empty, State.write_empty]
  · rw [walk]

theorem walk_gather_token {t : Token} (plain : t.isLiteral = false) (keepPadding : Bool)
    (ps : Parameters) (depth : Nat) (text : String) (ts : List Token) (s : State) :
    walk keepPadding ps depth (gather text ((t :: ts).flatMap Token.pieces)) s =
      walk keepPadding ps depth (t :: gather "" (ts.flatMap Token.pieces)) (s.write text) := by
  rw [gather_token plain, walk_consText]

/-- Joining literals does not change what tokens do. -/
theorem walk_gather (keepPadding : Bool) (ps : Parameters) (depth : Nat) (text : String)
    (ts : List Token) (s : State) :
    walk keepPadding ps depth (gather text (ts.flatMap Token.pieces)) s =
      walk keepPadding ps depth ts (s.write text) := by
  generalize written : s.write text = after
  -- The walk over the tokens decides where to go on; the text that waits is part of its state.
  fun_induction walk keepPadding ps depth ts after generalizing s text with
  | case1 => rw [List.flatMap_nil, gather, walk_consText, walk, written]
  | case2 _ _ more _ ih =>
    rw [gather_literal]
    exact ih (text ++ more) s (by rw [← written, State.write_write])
  | case3 _ _ _ _ ih | case4 _ _ _ _ ih | case5 _ _ _ ih | case6 _ _ _ ih | case11 _ _ _ ih =>
    rw [walk_gather_token rfl, written, walk]
    exact ih "" _ (State.write_empty _)
  | case7 _ _ _ truthy ih =>
    rw [walk_gather_token rfl, written, walk, if_pos truthy]
    exact ih "" _ (State.write_empty _)
  | case8 _ _ _ falsy landing ih =>
    rw [walk_gather_token rfl, written, walk, if_neg falsy, skipArm_gather]
    exact ih "" _ (State.write_empty _)
  | case9 _ _ ih =>
    rw [walk_gather_token rfl, written, walk, if_pos rfl]
    exact ih "" _ (State.write_empty _)
  | case10 _ _ _ inside ih =>
    rw [walk_gather_token rfl, written, walk, if_neg inside, skipArm_gather]
    exact ih "" _ (State.write_empty _)

theorem mem_gather {t : Token} (plain : t.isLiteral = false) {text : String} {ts : List Token}
    (member : t ∈ gather text (ts.flatMap Token.pieces)) : t ∈ ts := by
  have front {text : String} {us : List Token} (member : t ∈ consText text us) : t ∈ us := by
    unfold consText at member
    split at member
    · exact member
    · rcases List.mem_cons.mp member with rfl | member
      · cases plain
      · exact member
  induction ts generalizing text with
  | nil => exact front member
  | cons u ts ih =>
    by_cases literal : u.isLiteral
    · cases u with
      | literal more =>
        rw [gather_literal] at member
        exact List.mem_cons_of_mem _ (ih member)
      | _ => cases literal
    · rw [gather_token (by simpa using literal)] at member
      rcases List.mem_cons.mp (front member) with rfl | later
      · exact List.mem_cons_self
      · exact List.mem_cons_of_mem u (ih later)

end Template

def Expr.tokens : Expr → List Token
  | parameter index => [.action (.parameter index)]
  | integer n => [.action (.integer n)]
  | character c => [.action (.integer (Int64.ofNat c.toNat))]
  | get v => [.action (.get v)]
  | length e => e.tokens ++ [.action .length]
  | unary op e => e.tokens ++ [.action (.unary op)]
  | binary op left right => left.tokens ++ right.tokens ++ [.action (.binary op)]

mutual

def Stmt.tokens : Stmt → List Token
  | .text t => [.literal t]
  | .print f e => e.tokens ++ [.action (.print f)]
  | .store v e => e.tokens ++ [.action (.set v)]
  | .seq first second => first.tokens ++ second.tokens
  | .cond c => [.beginIf] ++ c.tokens ++ [.endIf]

def Chain.tokens : Chain → List Token
  | .last test arm => test.tokens ++ [.thenArm] ++ arm.tokens
  | .lastElse test arm otherwise =>
    test.tokens ++ [.thenArm] ++ arm.tokens ++ [.elseArm] ++ otherwise.tokens
  | .elseIf test arm rest => test.tokens ++ [.thenArm] ++ arm.tokens ++ [.elseArm] ++ rest.tokens

end

namespace Expr

@[simp] theorem eval_push (ps : Parameters) (s : State) (v : Value) (e : Expr) :
    e.eval ps (s.push v) = e.eval ps s := by
  induction e with
  | parameter => rfl
  | integer => rfl
  | character => rfl
  | get v => cases v <;> rfl
  | length e ih => simp [eval, ih]
  | unary op e ih => simp [eval, ih]
  | binary op left right first second => simp [eval, first, second]

theorem walk_tokens (keepPadding : Bool) (ps : Parameters) (depth : Nat) (e : Expr)
    (ts : List Token) (s : State) :
    walk keepPadding ps depth (e.tokens ++ ts) s =
      walk keepPadding ps depth ts (s.push (e.eval ps s)) := by
  induction e generalizing ts s with
  | parameter => simp [tokens, walk, Action.apply, eval]
  | integer => simp [tokens, walk, Action.apply, eval]
  | character => simp [tokens, walk, Action.apply, eval, Value.ofChar, Value.ofNat]
  | get => simp [tokens, walk, Action.apply, eval]
  | length e ih => simp [tokens, ih, walk, Action.apply, eval]
  | unary op e ih => simp [tokens, ih, walk, Action.apply, eval]
  | binary op left right first second =>
    simp [tokens, first, second, walk, Action.apply, eval]

theorem skipArm_tokens (toElse : Bool) (nesting : Nat) (e : Expr) (ts : List Token) :
    skipArm toElse nesting (e.tokens ++ ts) = skipArm toElse nesting ts := by
  induction e generalizing ts with
  | parameter => rfl
  | integer => rfl
  | character => rfl
  | get => rfl
  | length e ih => simp [tokens, ih, skipArm]
  | unary op e ih => simp [tokens, ih, skipArm]
  | binary op left right first second => simp [tokens, first, second, skipArm]

theorem increment_not_mem (e : Expr) : .increment ∉ e.tokens := by
  induction e with
  | length e ih => simp [tokens, ih]
  | unary op e ih => simp [tokens, ih]
  | binary op left right first second => simp [tokens, first, second]
  | _ => simp [tokens]

end Expr

mutual

/-- A statement keeps to its conditionals, so it is passed over as a whole. -/
theorem Stmt.skipArm_tokens (toElse : Bool) (nesting : Nat) (p : Stmt) (ts : List Token) :
    skipArm toElse nesting (p.tokens ++ ts) = skipArm toElse nesting ts := by
  cases p with
  | text t => rfl
  | print f e => simp [Stmt.tokens, Expr.skipArm_tokens, skipArm]
  | store v e => simp [Stmt.tokens, Expr.skipArm_tokens, skipArm]
  | seq first second =>
    rw [Stmt.tokens, List.append_assoc, first.skipArm_tokens, second.skipArm_tokens]
  | cond c => simp [Stmt.tokens, skipArm, c.skipArm_tokens]

/-- The marks of a chain belong to the conditional around it. -/
theorem Chain.skipArm_tokens (toElse : Bool) (nesting : Nat) (c : Chain) (ts : List Token) :
    skipArm toElse (nesting + 1) (c.tokens ++ ts) = skipArm toElse (nesting + 1) ts := by
  cases c with
  | last test arm =>
    simp [Chain.tokens, Expr.skipArm_tokens, skipArm, arm.skipArm_tokens]
  | lastElse test arm otherwise =>
    simp [Chain.tokens, Expr.skipArm_tokens, skipArm, arm.skipArm_tokens, otherwise.skipArm_tokens]
  | elseIf test arm rest =>
    simp [Chain.tokens, Expr.skipArm_tokens, skipArm, arm.skipArm_tokens, rest.skipArm_tokens]

end

theorem Chain.skipArm_finish (c : Chain) (ts : List Token) :
    skipArm false 0 (c.tokens ++ ts) = skipArm false 0 ts := by
  cases c with
  | last test arm =>
    simp [Chain.tokens, Expr.skipArm_tokens, skipArm, arm.skipArm_tokens]
  | lastElse test arm otherwise =>
    simp [Chain.tokens, Expr.skipArm_tokens, skipArm, arm.skipArm_tokens, otherwise.skipArm_tokens]
  | elseIf test arm rest =>
    simp [Chain.tokens, Expr.skipArm_tokens, skipArm, arm.skipArm_tokens, rest.skipArm_finish]

/-- A test takes its value from the stack and goes to its arm, or to behind the mark that ends the
arm. -/
theorem Expr.walk_test (keepPadding : Bool) (ps : Parameters) (depth : Nat) (e : Expr)
    (ts : List Token) (s : State) :
    walk keepPadding ps (depth + 1) (e.tokens ++ .thenArm :: ts) s =
      if (e.eval ps s).isTruthy then walk keepPadding ps (depth + 1) ts s
      else walk keepPadding ps (if (skipArm true 0 ts).1 then depth else depth + 1)
        (skipArm true 0 ts).2 s := by
  simp [Expr.walk_tokens, walk]

theorem walk_finish (keepPadding : Bool) (ps : Parameters) (depth : Nat) (ts : List Token)
    (s : State) :
    walk keepPadding ps (depth + 1) (.elseArm :: ts) s =
      walk keepPadding ps depth (skipArm false 0 ts).2 s := by
  simp [walk]

mutual

/-- A statement is run in one step, at any depth and whatever is on the stack. -/
theorem Stmt.walk_tokens (keepPadding : Bool) (ps : Parameters) (depth : Nat) (p : Stmt)
    (ts : List Token) (s : State) :
    walk keepPadding ps depth (p.tokens ++ ts) s =
      walk keepPadding ps depth ts (p.exec ps s) := by
  cases p with
  | text t => simp [Stmt.tokens, walk, Stmt.exec]
  | print f e => simp [Stmt.tokens, Expr.walk_tokens, walk, Stmt.exec]
  | store v e => simp [Stmt.tokens, Expr.walk_tokens, walk, Stmt.exec, Action.apply]
  | seq first second =>
    rw [Stmt.tokens, List.append_assoc, first.walk_tokens, second.walk_tokens, Stmt.exec]
  | cond c => simp [Stmt.tokens, walk, c.walk_tokens, Stmt.exec]

theorem Chain.walk_tokens (keepPadding : Bool) (ps : Parameters) (depth : Nat) (c : Chain)
    (ts : List Token) (s : State) :
    walk keepPadding ps (depth + 1) (c.tokens ++ .endIf :: ts) s =
      walk keepPadding ps depth ts (c.exec ps s) := by
  cases c with
  | last test arm =>
    simp only [Chain.tokens, List.append_assoc, List.cons_append, List.nil_append]
    rw [Expr.walk_test, Chain.exec]
    split
    · simp [arm.walk_tokens, walk]
    · simp [arm.skipArm_tokens, skipArm]
  | lastElse test arm otherwise =>
    simp only [Chain.tokens, List.append_assoc, List.cons_append, List.nil_append]
    rw [Expr.walk_test, Chain.exec]
    split
    · simp [arm.walk_tokens, walk_finish, otherwise.skipArm_tokens, skipArm]
    · simp [arm.skipArm_tokens, skipArm, otherwise.walk_tokens, walk]
  | elseIf test arm rest =>
    simp only [Chain.tokens, List.append_assoc, List.cons_append, List.nil_append]
    rw [Expr.walk_test, Chain.exec]
    split
    · simp [arm.walk_tokens, walk_finish, rest.skipArm_finish, skipArm]
    · simp [arm.skipArm_tokens, skipArm, rest.walk_tokens]

end

theorem Template.readCharacter_source (c : Char) (rest : List Char) :
    readCharacter ((if c = '\\' then ['\\', '\\'] else [c]) ++ '\'' :: rest) =
      .ok (Int64.ofNat c.toNat, rest) := by
  by_cases backslash : c = '\\'
  · subst backslash
    rfl
  · simp [readCharacter, backslash]

theorem readAs_characterSource (c : Char) :
    ReadAs (characterSource c) [.token (.action (.integer (Int64.ofNat c.toNat)))] := by
  have written : characterSource c =
      '%' :: '\'' :: ((if c = '\\' then ['\\', '\\'] else [c]) ++ ['\'']) := rfl
  rw [written]
  refine .single fun rest => ?_
  rw [List.cons_append, List.append_assoc]
  exact Reader.action_ok (readCharacter_source c rest) .integer

theorem Expr.readAs_source {e : Expr} (writable : e.Writable) :
    ReadAs e.source (e.tokens.flatMap Token.pieces) := by
  induction e with
  | parameter index => exact readAs_action (a := .parameter index) index.isLt
  | integer n => exact readAs_action (a := .integer n) writable
  | character c => exact readAs_characterSource c
  | get v => exact readAs_action (a := .get v) trivial
  | length e ih =>
    rw [Expr.source, Expr.tokens, List.flatMap_append]
    exact (ih writable).append (readAs_action trivial)
  | unary op e ih =>
    rw [Expr.source, Expr.tokens, List.flatMap_append]
    exact (ih writable).append (readAs_action trivial)
  | binary op left right first second =>
    rw [Expr.source, Expr.tokens, List.flatMap_append, List.flatMap_append]
    exact ((first writable.1).append (second writable.2)).append (readAs_action trivial)

theorem readAs_mark (t : Token) (normal : t.Normal) :
    ReadAs t.source ([t].flatMap Token.pieces) := by
  rw [List.flatMap_singleton]
  exact readAs_token normal

mutual

/-- From the text of a statement its tokens are read, up to the joining of literals. -/
theorem Stmt.readAs_source {p : Stmt} (writable : p.Writable) :
    ReadAs p.source (p.tokens.flatMap Token.pieces) := by
  cases p with
  | text t =>
    rw [Stmt.source, Stmt.tokens, List.flatMap_singleton]
    exact readAs_literal t
  | print f e =>
    rw [Stmt.source, Stmt.tokens, List.flatMap_append]
    exact (Expr.readAs_source writable.2).append (readAs_action writable.1)
  | store v e =>
    rw [Stmt.source, Stmt.tokens, List.flatMap_append]
    exact (Expr.readAs_source writable).append (readAs_action trivial)
  | seq first second =>
    rw [Stmt.source, Stmt.tokens, List.flatMap_append]
    exact (Stmt.readAs_source writable.1).append (Stmt.readAs_source writable.2)
  | cond c =>
    simp only [Stmt.source, Stmt.tokens, List.flatMap_append]
    exact ((readAs_mark .beginIf trivial).append (Chain.readAs_source writable)).append
      (readAs_mark .endIf trivial)

theorem Chain.readAs_source {c : Chain} (writable : c.Writable) :
    ReadAs c.source (c.tokens.flatMap Token.pieces) := by
  have test {e : Expr} (writable : e.Writable) :=
    (Expr.readAs_source writable).append (readAs_mark .thenArm trivial)
  cases c with
  | last _ arm =>
    simp only [Chain.source, Chain.tokens, List.flatMap_append]
    exact (test writable.1).append (Stmt.readAs_source writable.2)
  | lastElse _ arm otherwise =>
    simp only [Chain.source, Chain.tokens, List.flatMap_append]
    exact (((test writable.1).append (Stmt.readAs_source writable.2.1)).append
      (readAs_mark .elseArm trivial)).append (Stmt.readAs_source writable.2.2)
  | elseIf _ arm rest =>
    simp only [Chain.source, Chain.tokens, List.flatMap_append]
    exact (((test writable.1).append (Stmt.readAs_source writable.2.1)).append
      (readAs_mark .elseArm trivial)).append (Chain.readAs_source writable.2.2)

end

mutual

theorem Stmt.increment_not_mem (p : Stmt) : .increment ∉ p.tokens := by
  cases p with
  | text t => simp [Stmt.tokens]
  | print f e => simp [Stmt.tokens, e.increment_not_mem]
  | store v e => simp [Stmt.tokens, e.increment_not_mem]
  | seq first second => simp [Stmt.tokens, first.increment_not_mem, second.increment_not_mem]
  | cond c => simp [Stmt.tokens, c.increment_not_mem]

theorem Chain.increment_not_mem (c : Chain) : .increment ∉ c.tokens := by
  cases c with
  | last test arm => simp [Chain.tokens, test.increment_not_mem, arm.increment_not_mem]
  | lastElse test arm otherwise =>
    simp [Chain.tokens, test.increment_not_mem, arm.increment_not_mem, otherwise.increment_not_mem]
  | elseIf test arm rest =>
    simp [Chain.tokens, test.increment_not_mem, arm.increment_not_mem, rest.increment_not_mem]

end

theorem Template.tokens_of_readAs {cs : List Char} {xs : List Lexeme} (read : ReadAs cs xs) :
    tokens (String.ofList cs) = .ok (gather "" xs) := by
  have whole := read []
  rw [List.append_nil, lexemes] at whole
  simp [tokens, whole, Except.map]

theorem Stmt.execute_compiled (p : Stmt) (keepPadding : Bool) (params : List Value)
    (statics : Variables) :
    (Program.ofTokens keepPadding (gather "" (p.tokens.flatMap Token.pieces))).execute params
      statics = p.exec ⟨params, false⟩ { statics } := by
  have plain : (gather "" (p.tokens.flatMap Token.pieces)).contains .increment = false := by
    simpa using fun member => p.increment_not_mem (mem_gather rfl member)
  have walked := p.walk_tokens keepPadding ⟨params, false⟩ 0 [] { statics }
  rw [List.append_nil, walk] at walked
  rw [Program.execute, Program.ofTokens, plain, run_ofTokens, walk_gather, State.write_empty, walked]

/-- However a statement's tokens are written, the text compiles, and each call ends in the state that
the statement leads to. -/
theorem Stmt.compile_of_readAs {p : Stmt} {cs : List Char}
    (read : ReadAs cs (p.tokens.flatMap Token.pieces)) (options : Options) :
    ∃ m, Method.compile (String.ofList cs) options = .ok m ∧
      ∀ (params : List Value) (statics : Variables),
        m.program.execute params statics = p.exec ⟨params, false⟩ { statics } :=
  ⟨_, Method.compile_eq_ok.mpr ⟨_, tokens_of_readAs read, rfl⟩,
    p.execute_compiled options.keepPadding⟩

/-- Every structured template that can be written compiles, and each call does what it means: it
leaves the output and the static variables of its statements, run one after the other. -/
theorem Stmt.compile_source (p : Stmt) (writable : p.Writable) (options : Options) :
    ∃ m, Method.compile (String.ofList p.source) options = .ok m ∧
      ∀ (params : List Value) (statics : Variables),
        m.callWith statics params =
          ((p.exec ⟨params, false⟩ { statics }).output,
            (p.exec ⟨params, false⟩ { statics }).statics) := by
  obtain ⟨m, compiled, executes⟩ := Stmt.compile_of_readAs (Stmt.readAs_source writable) options
  refine ⟨m, compiled, fun params statics => ?_⟩
  rw [Method.callWith, executes]

/-- The arm that is run stores the second parameter, and prints what it has stored. -/
theorem Stmt.compile_source_chain :
    ∃ m, Method.compile "%?%p1%tA%e%p2%{-7}%=%tB%p2%PZ%gZ%:d%eC%;" = .ok m ∧
      m.callWith .initial [.integer 0, .integer (-7)] =
        ("B-7", Variables.initial.set 25 (.integer (-7))) := by
  let p : Stmt := .cond (.elseIf (.parameter 0) (.text "A")
    (.lastElse (.binary .equal (.parameter 1) (.integer (-7)))
      (.seq (.text "B") (.seq (.store (.static 25) (.parameter 1))
        (.print ⟨.decimal, {}⟩ (.get (.static 25)))))
      (.text "C")))
  have written : String.ofList p.source = "%?%p1%tA%e%p2%{-7}%=%tB%p2%PZ%gZ%:d%eC%;" := by
    decide +kernel
  have constant : (Expr.integer (-7)).Writable := show (Action.integer (-7)).Normal by decide
  obtain ⟨m, compiled, calls⟩ := Stmt.compile_source p
    ⟨trivial, trivial, ⟨trivial, constant⟩, ⟨trivial, trivial, Layout.normal_default, trivial⟩,
      trivial⟩ {}
  rw [written] at compiled
  exact ⟨m, compiled, (calls _ _).trans (by decide +kernel)⟩

end TermTemplate
