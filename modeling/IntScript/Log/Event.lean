import IntScript.Environment
import IntScript.Error.Details
import IntScript.Log.Severity
import IntScript.Statement

/-!
# Events

What is reported while a script is read and carried out.  An event has a severity, a target,
which names the part of the program that reports it, a message, and fields.  `Event.entry` is
the line of the log that records the event.
-/

namespace IntScript

/-- Something that is reported while a script is read and carried out; `Event.severity` and
`Event.target` say how grave it is and who reports it. -/
inductive Event where
  /-- A token was found, which is part of `lexeme`. -/
  | token (lexeme : Lexeme)
  /-- The `statement` on the line with number `line` was read. -/
  | parsed (line : Nat) (statement : Statement)
  /-- A program with the given number of `statements` is about to be carried out. -/
  | evaluating (statements : Nat)
  /-- A name was assigned to, which makes for `binding`. -/
  | assigned (binding : Binding)
  /-- A script with the given number of `bytes` is about to be run. -/
  | running (bytes : Nat)
  /-- A script has come to its end; the number of names bound is `bound`. -/
  | finished (bound : Nat)
  /-- A script has failed with `error`. -/
  | failed (error : Error)
deriving DecidableEq

/-- The content of a field: a `count`, a text that is shown `plain`, or a text to be `quoted`. -/
inductive Field where
  | count (n : Nat)
  | plain (text : String)
  | quoted (text : String)
deriving DecidableEq

/-- A field as the log shows it, by `Decimal.text` or by `Quoted.text` if need be. -/
def Field.text : Field → String
  | count n => Decimal.text n
  | plain text => text
  | quoted text => Quoted.text text

namespace Event

/-- The severity of an event: `trace` for tokens, `info` for the beginning and the end of a run, and
`debug` for what lies between. -/
def severity : Event → Severity
  | token _ => .trace
  | parsed _ _ | evaluating _ | assigned _ | failed _ => .debug
  | running _ | finished _ => .info

/-- The part of the program that reports an event, which `Directive.covers` compares with the target
of a directive. -/
def target : Event → String
  | token _ => "minipy::interpreter::lexer"
  | parsed _ _ => "minipy::interpreter::parser::core"
  | assigned _ => "minipy::interpreter::evaluator::core"
  | evaluating _ | running _ | finished _ | failed _ => "minipy"

/-- What happened, in words. -/
def message : Event → String
  | token _ => "token"
  | parsed _ _ => "parsed statement"
  | evaluating _ => "evaluating program"
  | assigned _ => "assign"
  | running _ => "running script"
  | finished _ => "script finished"
  | failed _ => "script failed"

/-- The particulars of an event, with their names.  Only texts that scripts leave open are
`Field.quoted`. -/
def fields : Event → List (String × Field)
  | token lexeme =>
    [("kind", .plain lexeme.token.kind.name), ("text", .quoted lexeme.token.text),
      ("start", .count lexeme.start)]
  | parsed line statement => [("line", .count line), ("statement", .plain statement.text)]
  | evaluating statements => [("statements", .count statements)]
  | assigned (name, value) =>
    [("name", .quoted name), ("value", .plain (Decimal.text value))]
  | running bytes => [("bytes", .count bytes)]
  | finished bound => [("variables", .count bound)]
  | failed error => [("error", .plain error.details)]

/-- What the log says about `event`: the severity, set to the right in five columns, the message,
and the fields.  A `Logger` may add the time and colours to it. -/
def entry (event : Event) : String :=
  let severity := event.severity.name
  "".pushn ' ' (5 - severity.length) ++ severity ++ " " ++ event.message
    ++ String.join (event.fields.map fun (name, field) => " " ++ name ++ "=" ++ field.text)

end Event

end IntScript
