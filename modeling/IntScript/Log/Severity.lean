import IntScript.Text.Decimal

/-!
# Severities

The five severities of log entries, from grave matters to the finest detail.  A log that is
open to some severity is open to all graver ones.  How far a log is open is its limit, which is
either a severity or `none` if the log is shut.
-/

namespace IntScript

/-- The severity of an event, from `error`, the gravest, to `trace`. -/
inductive Severity where
  | error
  | warn
  | info
  | debug
  | trace
deriving DecidableEq

namespace Severity

/-- The upper-case name of a severity, as `Event.entry` shows it. -/
def name : Severity → String
  | error => "ERROR"
  | warn => "WARN"
  | info => "INFO"
  | debug => "DEBUG"
  | trace => "TRACE"

/-- The lower-case name of a severity, as it stands in settings. -/
def word : Severity → String
  | error => "error"
  | warn => "warn"
  | info => "info"
  | debug => "debug"
  | trace => "trace"

/-- The severity up to which a log is open if more detail was asked for `verbosity` times. -/
def ofVerbosity : (verbosity : Nat) → Severity
  | 0 => warn
  | 1 => info
  | 2 => debug
  | _ => trace

/-- The degree of detail of a severity, which is also a way to name it in settings. -/
def detail : Severity → Nat
  | error => 1
  | warn => 2
  | info => 3
  | debug => 4
  | trace => 5

/-- Whether a log that is open up to `limit` is open to `severity`. -/
def admits (limit severity : Severity) : Bool :=
  severity.detail ≤ limit.detail

/-- All limits, from `none`, for a log that is shut, to one that is open to everything. -/
def limits : List (Option Severity) :=
  [none, some error, some warn, some info, some debug, some trace]

/-- The number that `text` stands for, which may have a plus sign in front. -/
def number? (text : String) : Option Nat :=
  match text.toList with
  | '+' :: digits => Decimal.read? (String.ofList digits)
  | _ => Decimal.read? text

/-- The limit that `text` describes: `off` or the name of a severity, in letters of either case, or
a number, read as a degree of detail.  The outer `none` stands for a text without a meaning. -/
def limit? (text : String) : Option (Option Severity) :=
  match number? text with
  | some degree => limits[degree]?
  | none => limits.find? fun limit => limit.elim "OFF" name = text.map Char.toUpper

end Severity

end IntScript
