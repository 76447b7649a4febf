/-!
# Lines

A text is divided into lines at its line feeds.  A carriage return right in front of a line
feed belongs to the terminator, and a last line need not be terminated, so that a text which
ends in a line feed has no empty line behind it.
-/

namespace IntScript

/-- The lines of a sequence of characters, without the terminators `"
"` and `"\r
"`. -/
def linesOfChars : List Char → List (List Char)
  | [] => []
  | '\n' :: rest => [] :: linesOfChars rest
  | '\r' :: '\n' :: rest => [] :: linesOfChars rest
  | c :: rest =>
    match linesOfChars rest with
    | [] => [[c]]
    | line :: lines => (c :: line) :: lines

/-- The lines of `text`, without their terminators. -/
def lines (text : String) : List String :=
  (linesOfChars text.toList).map String.ofList

end IntScript
