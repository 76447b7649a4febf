import IntScript.Execution
import IntScript.Source

/-!
# Runs

A source is run by reading it as a program, and by carrying out the program in the empty
environment.  Nothing is carried out unless all of the source can be read.
-/

namespace IntScript

/-- The `events` that a run reports, the `output` it prints, and its `result`: the environment it
ends with or the reason why it fails. -/
structure Run where
  events : List Event
  output : String
  result : Except Error Environment

/-- The environment that `execution` ends with, or its `failure`. -/
def Execution.result (execution : Execution) : Except RuntimeError Environment :=
  match execution.failure with
  | none => .ok execution.env
  | some cause => .error cause

/-- Runs `source` from the empty environment, with output to `Sink.start room`. -/
def run (source : String) (room : Option Nat) : Run :=
  let reading := Program.read source
  match reading.result with
  | .error error => ⟨reading.events, "", .error error⟩
  | .ok program =>
    let execution := program.execute .empty (.start room)
    ⟨reading.events ++ .evaluating program.length :: execution.assigned.map .assigned,
      execution.sink.text, execution.result.mapError .runtime⟩

/-- The output of `run source none`, provided that the run does not fail. -/
def runToString (source : String) : Logged Error String :=
  let outcome := run source none
  ⟨outcome.events, outcome.result.map fun _ => outcome.output⟩

end IntScript
