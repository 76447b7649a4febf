import IntScript.Expr.Parse
import IntScript.Statement

/-!
# Parsing statements

A statement is `print()`, `print(e)` or `name = e`, where `e` is an expression that takes up
all the tokens given to it.  The parentheses of an output statement are its second and its
last token.
-/

namespace IntScript.Statement

/-- Parses what follows the keyword of a `print` statement.  The last token has to be the closing
parenthesis. -/
def parsePrint : List Token → Except ParseError Statement
  | [] => .error (.unexpectedEnd .openingAfterPrint)
  | opening :: rest =>
    if opening.kind ≠ .lparen then
      .error (.unexpectedToken opening .openingAfterPrint)
    else
      match rest.getLast? with
      | none => .error (.unclosedParen none)
      | some closing =>
        if closing.kind ≠ .rparen then
          .error (.unclosedParen (some closing))
        else if rest.dropLast = [] then
          .ok (.print none)
        else
          (Expr.parse rest.dropLast).map fun value => .print (some value)

/-- Parses a statement that takes up all the tokens: behind the keyword by `parsePrint`, or behind a
name and an equals sign by `Expr.parse`. -/
def parse : List Token → Except ParseError Statement
  | [] => .error .emptyStatement
  | first :: rest =>
    match first.kind, rest with
    | .print, rest => parsePrint rest
    | .identifier, second :: value =>
      if second.kind = .equals then
        (Expr.parse value).map fun value => .assign first.text value
      else
        .error (.invalidStatement first)
    | _, _ => .error (.invalidStatement first)

end IntScript.Statement
