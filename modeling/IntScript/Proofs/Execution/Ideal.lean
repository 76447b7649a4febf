import IntScript.Execution
import IntScript.Proofs.Environment
import IntScript.Proofs.Except
import IntScript.Proofs.Sink
import Mathlib.Tactic.Use

/-!
# Ideal runs

The ideal run of a program carries out as many of its statements as evaluate, as if there were
room for all that they print.  It ends after the last statement, or in front of the first one
that does not evaluate.

Every program has an ideal run, and what it prints takes one byte for each character.
-/

namespace IntScript

/-! ### Effects -/

/-- What statements do: the `text` they print, and the `bindings` they assign. -/
structure Effect where
  text : String
  bindings : List Binding
deriving DecidableEq

namespace Effect

/-- Nothing is printed, and nothing is assigned. -/
def none : Effect :=
  ⟨"", []⟩

/-- The effect `a` and then the effect `b`: their texts and their bindings one after the other. -/
instance : Append Effect :=
  ⟨fun a b => ⟨a.text ++ b.text, a.bindings ++ b.bindings⟩⟩

@[simp]
theorem text_append (a b : Effect) :
  (a ++ b).text = a.text ++ b.text
  := rfl

@[simp]
theorem bindings_append (a b : Effect) :
  (a ++ b).bindings = a.bindings ++ b.bindings
  := rfl

end Effect

/-- The effect of a statement in `env`, provided that its expression evaluates. -/
def Statement.effect (env : Environment) : Statement → Except RuntimeError Effect
  | print none => .ok ⟨"\n", []⟩
  | print (some expr) => (expr.eval env).map fun value => ⟨Decimal.text value ++ "\n", []⟩
  | assign name expr => (expr.eval env).map fun value => ⟨"", [(name, value)]⟩

/-! ### Runs -/

/-- The statements of a program evaluate one after the other, each in the environment that those
before it leave behind, and have the given effect in all. -/
inductive Completes : Environment → Program → Effect → Prop where
  | nil {env : Environment} :
      Completes env [] .none
  | cons {env : Environment} {statement : Statement} {rest : Program} {first later : Effect}
      (head : statement.effect env = .ok first)
      (tail : Completes (env.assignAll first.bindings) rest later) :
      Completes env (statement :: rest) (first ++ later)

/-- Nothing can be carried out of a program in `env`: it is empty, or its first statement does not
evaluate, which is the `failure`. -/
inductive Stops (env : Environment) : Program → Option RuntimeError → Prop where
  | finished :
      Stops env [] none
  | failed {statement : Statement} {rest : Program} {cause : RuntimeError}
      (head : statement.effect env = .error cause) :
      Stops env (statement :: rest) (some cause)

/-- The ideal run of `program` in `env`: the statements that are `done` and their `effect`, the
`rest`, and the `failure` for which the rest is not done, unless it is empty. -/
structure IdealRun (program : Program) (env : Environment) where
  done : Program
  rest : Program
  effect : Effect
  failure : Option RuntimeError
  done_append_rest : done ++ rest = program
  completes : Completes env done effect
  stops : Stops (env.assignAll effect.bindings) rest failure

namespace IdealRun

variable {env : Environment} {statement : Statement} {rest : Program}

/-- The ideal run if the first statement does not evaluate, so that nothing is done. -/
def stopped {cause : RuntimeError} (h : statement.effect env = .error cause) :
    IdealRun (statement :: rest) env where
  done := []
  rest := statement :: rest
  effect := .none
  failure := some cause
  done_append_rest := rfl
  completes := .nil
  stops := .failed h

/-- The ideal run that goes on by `run` after the first statement. -/
def next {first : Effect} (h : statement.effect env = .ok first)
    (run : IdealRun rest (env.assignAll first.bindings)) :
    IdealRun (statement :: rest) env where
  done := statement :: run.done
  rest := run.rest
  effect := first ++ run.effect
  failure := run.failure
  done_append_rest := by rw [List.cons_append, run.done_append_rest]
  completes := .cons h run.completes
  stops := by
    rw [Effect.bindings_append, Environment.assignAll_append]
    apply run.stops

end IdealRun

/-- The ideal run of a program, which does its longest part that evaluates. -/
def Program.ideal : (program : Program) → (env : Environment) → IdealRun program env
  | [], _ => ⟨[], [], .none, none, rfl, .nil, .finished⟩
  | statement :: rest, env =>
    match h : statement.effect env with
    | .error _ => .stopped h
    | .ok first => .next h (ideal rest (env.assignAll first.bindings))

/-! ### Printed text -/

theorem utf8Size_of_isDigit {c : Char} (h : c.isDigit) :
  c.utf8Size = 1
  := by
  rw [Char.isDigit, Bool.and_eq_true, decide_eq_true_eq, decide_eq_true_eq] at h
  rw [Char.utf8Size_eq_one_iff]
  apply UInt32.le_trans h.2
  decide

/-- The decimal text of `value` has a minus sign and digits only. -/
theorem Decimal.isAscii_text (value : Int) :
  IsAscii (text value)
  := by
  have hrepr (n : Nat) : IsAscii n.repr := by
    intro c hc
    rw [Nat.toList_repr] at hc
    apply utf8Size_of_isDigit
    apply Nat.isDigit_of_mem_toDigits (by decide) (by decide) hc
  cases value with
  | ofNat n => apply hrepr n
  | negSucc n =>
    rw [text, isAscii_append]
    use by decide, hrepr (n + 1)

theorem Statement.isAscii_effect {env : Environment} {statement : Statement} {effect : Effect}
    (h : statement.effect env = .ok effect) :
  IsAscii effect.text
  := by
  have hfeed : IsAscii "\n" := by decide
  cases statement with
  | print value =>
    cases value with
    | none =>
      cases h
      apply hfeed
    | some expr =>
      obtain ⟨value, -, rfl⟩ := Except.map_eq_ok_iff.mp h
      rw [isAscii_append]
      use Decimal.isAscii_text value, hfeed
  | assign name expr =>
    obtain ⟨value, -, rfl⟩ := Except.map_eq_ok_iff.mp h
    apply isAscii_empty

/-- If a program completes with `effect`, then what it prints takes one byte for each character. -/
theorem Completes.isAscii {env : Environment} {program : Program} {effect : Effect}
    (h : Completes env program effect) :
  IsAscii effect.text
  := by
  induction h with
  | nil => apply isAscii_empty
  | cons head _ ih =>
    rw [Effect.text_append, isAscii_append]
    use Statement.isAscii_effect head, ih

/-! ### Observations -/

/-- What can be seen of a program that was carried out: the `output`, the environment `env` left
behind, and the `failure`, if there is one. -/
structure Observation where
  output : String
  env : Environment
  failure : Option RuntimeError
deriving DecidableEq

/-- What is seen of the ideal run `run`. -/
def IdealRun.observation {program : Program} {env : Environment} (run : IdealRun program env) :
    Observation :=
  ⟨run.effect.text, env.assignAll run.effect.bindings, run.failure⟩

/-- What is seen of `execution`. -/
def Execution.observation (execution : Execution) : Observation :=
  ⟨execution.sink.text, execution.env, execution.failure⟩

end IntScript
