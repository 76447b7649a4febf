import IntScript.Text.Printable

/-!
# Quoted text

Characters and texts between quotation marks, as the log shows them.  A backslash, the
quotation mark itself, and characters that would not show as they are, are written by
escape sequences.
-/

namespace IntScript.Quoted

/-- The character `c` inside quotation marks of the kind `mark`.  Only printable characters other
than `mark` and the backslash are shown as they are. -/
def escape (mark c : Char) : String :=
  if c = '\x00' then "\\0"
  else if c = '\t' then "\\t"
  else if c = '\n' then "\\n"
  else if c = '\r' then "\\r"
  else if c = '\\' || c = mark then "\\" ++ c.toString
  else if isPrintable c then c.toString
  else "\\u\x7b" ++ String.ofList (Nat.toDigits 16 c.toNat) ++ "\x7d"

/-- The character `c` between apostrophes. -/
def char (c : Char) : String :=
  "'" ++ escape '\x27' c ++ "'"

/-- The text `s` between double quotation marks. -/
def text (s : String) : String :=
  "\"" ++ String.join (s.toList.map (escape '\x22')) ++ "\""

end IntScript.Quoted
