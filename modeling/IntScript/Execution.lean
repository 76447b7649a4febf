import IntScript.Expr.Eval
import IntScript.Sink
import IntScript.Statement

/-!
# Execution

A statement is carried out in an environment, with a sink for its output.  Statements are
carried out in order, up to the first that fails; what was printed and assigned before the
failure stays.
-/

namespace IntScript

/-- How far an execution has come: the environment `env` and the `sink` it leaves behind, the
bindings it `assigned`, and the `failure` for which it stopped early, if it did. -/
structure Execution where
  env : Environment
  sink : Sink
  assigned : List Binding
  failure : Option RuntimeError
deriving DecidableEq

namespace Execution

/-- An execution in `env`, with output to `sink`, that has done nothing yet. -/
def start (env : Environment) (sink : Sink) : Execution :=
  ⟨env, sink, [], none⟩

/-- The `execution`, stopped for `cause`. -/
def fail (execution : Execution) (cause : RuntimeError) : Execution :=
  { execution with failure := some cause }

/-- Prints `text`.  A sink that does not accept it stores a part, and stops the execution. -/
def print (execution : Execution) (text : String) : Execution :=
  { execution with
    sink := execution.sink.write text
    failure :=
      if execution.sink.accepts text then execution.failure
      else some (.output execution.sink.reason) }

/-- Assigns `value` to `name`. -/
def assign (execution : Execution) (name : String) (value : Int) : Execution :=
  { execution with
    env := execution.env.assign name value
    assigned := execution.assigned ++ [(name, value)] }

/-- Carries out one more statement.  Its expression is evaluated before anything else is done. -/
def step (execution : Execution) : Statement → Execution
  | .print none => execution.print "\n"
  | .print (some expr) =>
    match expr.eval execution.env with
    | .ok value => execution.print (Decimal.text value ++ "\n")
    | .error cause => execution.fail cause
  | .assign name expr =>
    match expr.eval execution.env with
    | .ok value => execution.assign name value
    | .error cause => execution.fail cause

/-- Carries out the statements of a program, up to the first that fails; nothing is done once there
is a `failure`. -/
def steps (execution : Execution) : Program → Execution
  | [] => execution
  | statement :: rest =>
    match execution.failure with
    | some _ => execution
    | none => (execution.step statement).steps rest

/-- To carry out `p ++ q` is to carry out `p` and then `q`. -/
theorem steps_append (execution : Execution) (p q : Program) :
  execution.steps (p ++ q) = (execution.steps p).steps q
  := by
  induction p generalizing execution with
  | nil => rfl
  | cons statement rest ih =>
    rw [List.cons_append, steps, steps]
    split
    next h =>
      cases q with
      | nil => rfl
      | cons statement q => rw [steps, h]
    next => apply ih

end Execution

/-- Carries out `statement` in `env`, with output to `sink`. -/
def Statement.execute (statement : Statement) (env : Environment) (sink : Sink) : Execution :=
  (Execution.start env sink).step statement

/-- Carries out `program` in `env`, with output to `sink`. -/
def Program.execute (program : Program) (env : Environment) (sink : Sink) : Execution :=
  (Execution.start env sink).steps program

/-- Carries out `node` in `env`, with output to `sink`.  An expression on its own is no statement,
and fails with `RuntimeError.bareExpression`. -/
def Node.execute (node : Node) (env : Environment) (sink : Sink) : Execution :=
  match node with
  | .program p => Program.execute p env sink
  | .statement s => s.execute env sink
  | .expression _ => (Execution.start env sink).fail .bareExpression

end IntScript
