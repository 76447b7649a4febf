import IntScript.CommandLine.Request
import IntScript.Log.Logger
import IntScript.Run

/-!
# Answers

What the program writes and returns in answer to its command line.  A script is run, or its
tokens or its tree are shown; afterwards the log, as a `Logger` keeps it, and in the end the
message of an error go to the error stream.
-/

namespace IntScript

/-! ### Scripts -/

/-- What a script brings about: the `events` reported, the `output` shown, and the `result` it ends
with. -/
structure Outcome where
  events : List Event
  output : String
  result : Except Error Unit

namespace Outcome

/-- What it brings about to `run` the script without a limit, between `Event.running` and, unless
the run fails, `Event.finished`. -/
def ofRun (script : String) : Outcome :=
  let outcome := IntScript.run script none
  let last : List Event :=
    match outcome.result with
    | .ok env => [.finished env.size]
    | .error _ => []
  ⟨.running script.utf8ByteSize :: outcome.events ++ last, outcome.output,
    outcome.result.map fun _ => ()⟩

/-- The line that shows the `tokens` of the line with the given `number`, each by its
`Token.description`. -/
def tokenLine (number : Nat) (tokens : List Token) : String :=
  Decimal.text number ++ ": " ++ " ".intercalate (tokens.map Token.description) ++ "\n"

/-- The `tokenLine` of each line, up to the first line whose `Line.scan` ends with a fault. -/
def ofTokenLines : List Line → Outcome
  | [] => ⟨[], "", .ok ()⟩
  | line :: rest =>
    match line.scan.result with
    | .error error => ⟨line.scan.events, "", .error error⟩
    | .ok tokens =>
      let outcome := ofTokenLines rest
      ⟨line.scan.events ++ outcome.events, tokenLine line.number tokens ++ outcome.output,
        outcome.result⟩

/-- Shows the tokens of `script`, line by line, with `ofTokenLines`. -/
def ofTokens (script : String) : Outcome :=
  ofTokenLines (Line.ofSource script)

/-- Shows `Program.text`, the canonical text of the program that `script` is read as. -/
def ofTree (script : String) : Outcome :=
  let reading := Program.read script
  match reading.result with
  | .ok program => ⟨reading.events, program.text, .ok ()⟩
  | .error error => ⟨reading.events, "", .error error⟩

/-- Does with `script` what `mode` says. -/
def ofScript (mode : Mode) (script : String) : Outcome :=
  match mode with
  | .run => ofRun script
  | .tokens => ofTokens script
  | .tree => ofTree script

end Outcome

/-! ### The command line -/

/-- Why the file with a script cannot be read: a failure of the `system`, with its `description` and
`code`, or bytes that are `notText`. -/
inductive ReadFailure where
  | system (description : String) (code : Nat)
  | notText
deriving DecidableEq

namespace ReadFailure

/-- The `system` failure for a path at which there is no file. -/
def notFound : ReadFailure :=
  system "No such file or directory" 2

/-- The `system` failure for a path that leads to a directory. -/
def isDirectory : ReadFailure :=
  system "Is a directory" 21

/-- The `system` failure for a path that goes on behind a file. -/
def notDirectory : ReadFailure :=
  system "Not a directory" 20

/-- The cause of a failure in words, with the `code` of a `system` failure. -/
def cause : ReadFailure → String
  | system description code => description ++ " (os error " ++ Decimal.text code ++ ")"
  | notText => "stream did not contain valid UTF-8"

/-- The text shown to the user when the file at `path` cannot be read because of `failure`. -/
def message (path : String) (failure : ReadFailure) : String :=
  "Failed to read the input file '" ++ path ++ "'. Perhaps this file does not exist? ("
    ++ failure.cause ++ ")"

end ReadFailure

/-- The exit `code`, the text `output` written to the output stream, and the lines `errors` written
to the error stream. -/
structure Answer where
  code : Nat
  output : String
  errors : List String
deriving DecidableEq

namespace Answer

/-- The name and version of the program. -/
def version : String :=
  "minipy 0.1.0"

/-- The rules for arguments in short; `help` has them in full. -/
def usage : String :=
  "Usage: minipy [OPTIONS] <CONTENTS>"

/-- The names and the purpose of `flag`, set in columns. -/
def explanation (flag : Flag) : String :=
  let letter :=
    match flag.letter? with
    | some letter => "-" ++ letter.toString ++ ", "
    | none => "    "
  let word := "--" ++ flag.word ++ if flag = .verbose then "..." else ""
  "  " ++ letter ++ word ++ "".pushn ' ' (14 - word.length) ++ flag.purpose

/-- What the program is for, its `usage`, and the `explanation` of every flag. -/
def help : List String :=
  ["A tiny interpreter for a Python-flavoured integer scripting language", "", usage, "",
    "Arguments:", "  <CONTENTS>", "", "Options:"] ++ Flag.all.map explanation

/-- The answer to arguments that make no request: a text that was asked for, or the `usage` as an
error. -/
def ofRefusal : Refusal → Answer
  | .help => ⟨0, String.join (help.map (· ++ "\n")), []⟩
  | .version => ⟨0, version ++ "\n", []⟩
  | .usage => ⟨2, "", [usage]⟩

/-- The answer when the file at `path` cannot be read, with `ReadFailure.message` as its only line.
-/
def ofReadFailure (path : String) (failure : ReadFailure) : Answer :=
  ⟨1, "", [failure.message path]⟩

/-- The answer to `outcome`, when `logger` keeps the log and `selects` tells which events are
written to it.  Only the error stream depends on the two. -/
def ofOutcome (logger : Logger) (selects : Event → Bool) (outcome : Outcome) : Answer :=
  match outcome.result with
  | .ok () => ⟨0, outcome.output, logger.lines selects outcome.events⟩
  | .error error =>
    ⟨1, outcome.output,
      logger.lines selects (outcome.events ++ [.failed error]) ++ [error.message]⟩

/-- The answer to `request`, for a `script` that could be read or could not.  Which events are
written to the log is up to `Logger.selection`. -/
def ofScript (logger : Logger) (request : Request) (setting : Option String)
    (script : Except ReadFailure String) : Answer :=
  match script with
  | .ok script =>
    ofOutcome logger (logger.selection request.verbosity setting)
      (Outcome.ofScript request.mode script)
  | .error failure => ofReadFailure request.contents failure

/-- The answer to the arguments `texts`.  If `Request.fromFile` holds, `read` reads the script at a
path. -/
def ofArguments {m : Type → Type} [Monad m] (logger : Logger)
    (read : (path : String) → m (Except ReadFailure String)) (setting : Option String)
    (texts : List String) : m Answer :=
  match Request.ofArguments texts with
  | .error refusal => return ofRefusal refusal
  | .ok request => do
    let script ← if request.fromFile then read request.contents else pure (.ok request.contents)
    return ofScript logger request setting script

end Answer

/-- The text that `bytes` encode, or `ReadFailure.notText`. -/
def scriptOfBytes (bytes : ByteArray) : Except ReadFailure String :=
  match String.fromUTF8? bytes with
  | some script => .ok script
  | none => .error .notText

end IntScript
