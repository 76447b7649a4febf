/-!
# Blank text

A text is blank when it consists of white space alone.  White space is understood in the
sense of Unicode: the twenty-five characters with the property `White_Space`.
-/

namespace IntScript

/-- The character `c` has the property of white space, which 25 characters of Unicode have. -/
def isWhiteSpace (c : Char) : Bool :=
  let code := c.toNat
  (0x09 ≤ code && code ≤ 0x0D) || code = 0x20 || code = 0x85 || code = 0xA0
    || code = 0x1680 || (0x2000 ≤ code && code ≤ 0x200A)
    || code = 0x2028 || code = 0x2029 || code = 0x202F || code = 0x205F || code = 0x3000

/-- There is nothing but white space in `text`, or nothing at all. -/
def isBlank (text : String) : Bool :=
  text.toList.all isWhiteSpace

end IntScript
