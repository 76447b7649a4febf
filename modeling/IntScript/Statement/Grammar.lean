import IntScript.Expr.Grammar
import IntScript.Statement.Parse

/-!
# The grammar of statements

`Statement.Derives tokens statement` says that the tokens spell out the statement.
-/

namespace IntScript

/-- The tokens spell out the statement; what is to be printed or assigned is derived by
`Rule.expression`. -/
inductive Statement.Derives : List Token → Statement → Prop where
  /-- The keyword and a pair of parentheses print an empty line, `print none`. -/
  | printEmpty {keyword opening closing : Token} (starts : keyword.kind = .print)
      (opens : opening.kind = .lparen) (closes : closing.kind = .rparen) :
      Derives [keyword, opening, closing] (.print none)
  /-- The keyword and an expression in parentheses print the value of `expr`. -/
  | print {keyword opening closing : Token} {tokens : List Token} {expr : Expr}
      (starts : keyword.kind = .print) (opens : opening.kind = .lparen)
      (value : IntScript.Derives .expression tokens expr) (closes : closing.kind = .rparen) :
      Derives (keyword :: opening :: tokens ++ [closing]) (.print (some expr))
  /-- A name, an equals sign and an expression assign the value of `expr` to the text of `name`. -/
  | assign {name equals : Token} {tokens : List Token} {expr : Expr}
      (starts : name.kind = .identifier) (sign : equals.kind = .equals)
      (value : IntScript.Derives .expression tokens expr) :
      Derives (name :: equals :: tokens) (.assign name.text expr)

end IntScript
