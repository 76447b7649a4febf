/-!
# Tokens

A token has a kind and the text it was written with.  The kind alone decides what role a
token plays in the grammar, so a token put together by hand may carry any text.
-/

namespace IntScript

/-- The kind of a token: the keyword `print`, a parenthesis, the sign of an operation or of an
assignment, a `number` or an `identifier`. -/
inductive Kind where
  | print
  | lparen
  | rparen
  | plus
  | minus
  | multiply
  | divide
  | equals
  | number
  | identifier
deriving DecidableEq

/-- The upper-case name of a kind, as it appears in messages. -/
def Kind.name : Kind → String
  | print => "PRINT"
  | lparen => "LPAREN"
  | rparen => "RPAREN"
  | plus => "PLUS"
  | minus => "MINUS"
  | multiply => "MULTIPLY"
  | divide => "DIVIDE"
  | equals => "EQUALS"
  | number => "NUMBER"
  | identifier => "IDENTIFIER"

/-- A token: its `kind` and its `text`.  A token that is put together by hand can have any text. -/
structure Token where
  kind : Kind
  text : String
deriving DecidableEq

/-- The way that messages show `token`: its kind, then its text between apostrophes. -/
def Token.description (token : Token) : String :=
  token.kind.name ++ " '" ++ token.text ++ "'"

end IntScript
