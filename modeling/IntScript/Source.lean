import IntScript.Log.Logged
import IntScript.Statement.Parse
import IntScript.Text.Blank
import IntScript.Text.Lines

/-!
# Sources

The source of a program holds one statement per line.  Blank lines are skipped, but they
count when lines are numbered.  The lines are read one after the other, up to the first that
cannot be read; only a source all of whose lines can be read is a program.
-/

namespace IntScript

/-- A line of a source, with its `number`; the first line has number one. -/
structure Line where
  number : Nat
  text : String
deriving DecidableEq

namespace Line

/-- All the lines of `source`, blank ones included. -/
def all (source : String) : List Line :=
  (lines source).mapIdx fun index text => ⟨index + 1, text⟩

/-- The lines of `source` that are not blank, with the numbers they have among all the lines. -/
def ofSource (source : String) : List Line :=
  (all source).filter fun line => !isBlank line.text

/-- The tokens of `line`.  Each of them is reported as `Event.token`, also if `line` has a fault
further on. -/
def scan (line : Line) : Logged Error (List Token) :=
  ⟨(IntScript.scan line.text).lexemes.map .token,
    (tokenize line.text).mapError (.scan line.number)⟩

/-- The statement on `line`, which is reported as `Event.parsed` after the tokens. -/
def read (line : Line) : Logged Error Statement := do
  let tokens ← line.scan
  let statement ← .quiet ((Statement.parse tokens).mapError (.parse line.number))
  .report (.parsed line.number statement)
  return statement

/-- The statement on `line`, as `Line.read` has it, without the events. -/
def parse (line : Line) : Except Error Statement :=
  line.read.result

/-- A `line` is tokenized first and parsed afterwards, with its number added to either error. -/
theorem parse_eq (line : Line) :
  line.parse
    = ((tokenize line.text).mapError (Error.scan line.number) >>= fun tokens =>
        (Statement.parse tokens).mapError (Error.parse line.number))
  := by
  unfold parse read
  rw [Logged.result_bind]
  congr 1
  funext tokens
  cases Statement.parse tokens <;> rfl

end Line

namespace Program

/-- Reads lines one by one, up to the first that is refused. -/
def readLines : List Line → Logged Error Program
  | [] => return []
  | line :: rest => do
    let statement ← line.read
    let program ← readLines rest
    return statement :: program

/-- Reads the program with the given `source`, line by line. -/
def read (source : String) : Logged Error Program :=
  readLines (Line.ofSource source)

/-- The program with the given `source`, as `Program.read` has it, without the events. -/
def parse (source : String) : Except Error Program :=
  (read source).result

end Program

end IntScript
