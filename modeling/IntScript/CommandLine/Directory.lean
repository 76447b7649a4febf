import IntScript.CommandLine.Answer
import IntScript.Log.Filter

/-!
# Directories of scripts

A directory that holds files and no further directories, and the answers to a command line
that is used in it.  A path leads from the directory through its parts, which are divided by
slashes: empty parts and single dots stay where they are, a file can only be the last part,
and everything outside the directory is out of reach.
-/

namespace IntScript

/-- The names and contents of the `files` in a directory.  Of two files with the same name the later
one counts. -/
structure Directory where
  files : List (String × ByteArray)

namespace Directory

/-- What a path has led to so far: the `directory` itself, somewhere `outside` of it, or a `file` in
it. -/
inductive Place where
  | directory
  | outside
  | file (bytes : ByteArray)

/-- Follows the parts of a path from `place` on. -/
def walk (directory : Directory) (place : Place) : List String → Except ReadFailure Place
  | [] => .ok place
  | part :: rest =>
    match place with
    | .file _ => .error .notDirectory
    | .outside =>
      if part = "" || part = "." || part = ".." then directory.walk .outside rest
      else .error .notFound
    | .directory =>
      if part = "" || part = "." then directory.walk .directory rest
      else if part = ".." then directory.walk .outside rest
      else
        match directory.files.reverse.lookup part with
        | some bytes => directory.walk (.file bytes) rest
        | none => .error .notFound

/-- The script in the file at `path`, provided that `path` leads to a file whose bytes encode a
text. -/
def script (directory : Directory) (path : String) : Except ReadFailure String :=
  if path = "" then .error .notFound
  else
    let start : Place := if path.toList.head? = some '/' then .outside else .directory
    match directory.walk start ((path.toList.splitOn '/').map String.ofList) with
    | .ok (.file bytes) => scriptOfBytes bytes
    | .ok _ => .error .isDirectory
    | .error failure => .error failure

/-- The answer to the arguments `texts`, used in `directory`, by way of `Answer.ofArguments`.  The
log has no times. -/
def answer (directory : Directory) (setting : Option String) (texts : List String) : Answer :=
  Id.run (Answer.ofArguments (.filtering fun _ => "") (pure ∘ directory.script) setting texts)

end Directory

end IntScript
