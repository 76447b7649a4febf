import IntScript.Log.Event

/-!
# Loggers

A `Logger` is what the program borrows in order to keep its log.  It understands settings:
`Logger.selection?` tells which events a setting selects.  And it writes events down:
`Logger.line` is the line that records an event, with whatever time and colours the logger adds
to it.  Nothing else is known of a logger.

Which events are written to the log is settled before the first one is reported.  A setting that
has a meaning decides; without one, the severity `Severity.ofVerbosity` does, which is read as a
setting too (`Logger.selection`).
-/

namespace IntScript

/-- The way in which settings are understood, `selection?`, and events are written down, `line`. -/
structure Logger where
  /-- The events that `setting` selects, or `none` if `setting` has no meaning. -/
  selection? : (setting : String) → Option (Event → Bool)
  /-- The line that records `event`, which is reported at `moment`. -/
  line : (moment : Nat) → (event : Event) → String

namespace Logger

/-- The events that are written to the log: those that `setting` selects, unless it is missing or
has no meaning, and then those that the word for `Severity.ofVerbosity verbosity` selects. -/
def selection (logger : Logger) (verbosity : Nat) (setting : Option String) : Event → Bool :=
  match setting.bind logger.selection? with
  | some selects => selects
  | none => (logger.selection? (Severity.ofVerbosity verbosity).word).getD fun _ => false

/-- The lines that record the events for which `selects` holds.  The moment of an event is the
number of `events` in front of it, whether they are selected or not. -/
def lines (logger : Logger) (selects : Event → Bool) (events : List Event) : List String :=
  (events.zipIdx.filter fun (event, _) => selects event).map fun (event, moment) =>
    logger.line moment event

end Logger

end IntScript
