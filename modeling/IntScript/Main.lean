import IntScript.CommandLine.Answer
import IntScript.Log.Filter

/-!
# The program

Reads the command line, the file it names and the setting of the log, and writes the answer.
-/

namespace IntScript

/-- The name of the variable that holds the setting of the log. -/
def settingVariable : String :=
  "MINIPY_LOG"

/-- The `ReadFailure` behind an error that is reported while a file is read. -/
def ReadFailure.ofError : IO.Error → ReadFailure
  | .noFileOrDirectory .. => notFound
  | .inappropriateType _ 21 _ => isDirectory
  | .inappropriateType .. => notDirectory
  | .permissionDenied _ code description => system description code.toNat
  | error => system error.toString 0

/-- Reads the script in the file at `path`. -/
def readScript (path : String) : IO (Except ReadFailure String) := do
  try
    return scriptOfBytes (← IO.FS.readBinFile path)
  catch error =>
    return .error (.ofError error)

/-- Writes `answer` to the output streams, and gives back its exit code. -/
def Answer.write (answer : Answer) : IO UInt32 := do
  let output ← IO.getStdout
  output.putStr answer.output
  output.flush
  for line in answer.errors do
    IO.eprintln line
  return answer.code.toUInt32

end IntScript

open IntScript in
/-- Answers the command line `arguments`.  The log has no times. -/
def main (arguments : List String) : IO UInt32 := do
  let setting ← IO.getEnv settingVariable
  let answer ← Answer.ofArguments (.filtering fun _ => "") readScript setting arguments
  answer.write
