import IntScript.Text.Decimal
import IntScript.Token.Scan

/-!
# Well-formed tokens

A token is well formed when its text is one that tokens of its kind are written with: the
spelling of the keyword or of a punctuation character, a numeral, or a name.  A name is a
letter followed by letters and digits, all of ASCII, that does not begin with the keyword.
-/

namespace IntScript

/-- The characters are a letter followed by letters and digits, all of them ASCII. -/
def isWord : List Char → Bool
  | [] => false
  | c :: rest => c.isAlpha && rest.all Char.isAlphanum

/-- The `text` can be used as a name: it is a word that does not begin with `Token.keyword`. -/
def isName (text : String) : Bool :=
  isWord text.toList && !Token.keyword.text.toList.isPrefixOf text.toList

/-- The text of the tokens of a kind, or `none` for numbers and names, which are not all written
alike. -/
def Kind.spelling? : Kind → Option String
  | print => some "print"
  | lparen => some "("
  | rparen => some ")"
  | plus => some "+"
  | minus => some "-"
  | multiply => some "*"
  | divide => some "/"
  | equals => some "="
  | number | identifier => none

/-- The text of `token` is one that its kind allows. -/
def Token.isWellFormed (token : Token) : Bool :=
  match token.kind with
  | .number => Decimal.isNumeral token.text
  | .identifier => isName token.text
  | kind => kind.spelling? = some token.text

end IntScript
