import IntScript.Expr.Parse

/-!
# The grammar of expressions

`Derives rule tokens expr` says that the tokens spell out the expression according to a rule
of the grammar.  Sums and products are left recursive, so operators of equal strength group to
the left.
-/

namespace IntScript

/-- The `tokens` spell out the tree `expr` according to `rule`; `Derives rule tokens expr` is the
grammar of expressions, read as an inductive definition. -/
inductive Derives : Rule → List Token → Expr → Prop where
  /-- A number is a factor.  What counts is the text of the `token`, which has to be a numeral. -/
  | number {token : Token} {value : Nat} (kind : token.kind = .number)
      (read : Decimal.read? token.text = some value) :
      Derives .factor [token] (.num value)
  /-- A name is a factor, whatever the text of the `token` is. -/
  | name {token : Token} (kind : token.kind = .identifier) :
      Derives .factor [token] (.name token.text)
  /-- An expression in parentheses is a factor, with the tree of the expression. -/
  | group {opening closing : Token} {tokens : List Token} {expr : Expr}
      (opens : opening.kind = .lparen) (inner : Derives .expression tokens expr)
      (closes : closing.kind = .rparen) :
      Derives .factor (opening :: tokens ++ [closing]) expr
  /-- A factor is a term. -/
  | factor {tokens : List Token} {expr : Expr} (factor : Derives .factor tokens expr) :
      Derives .term tokens expr
  /-- A term times or divided by a factor is a term.  The kind of `sign` says that there is an
  operation, and its text says which one. -/
  | product {ls rs : List Token} {sign : Token} {left right : Expr} {op : Operator}
      (first : Derives .term ls left) (kind : sign.kind = .multiply ∨ sign.kind = .divide)
      (symbol : Operator.ofSymbol? sign.text = some op) (second : Derives .factor rs right) :
      Derives .term (ls ++ sign :: rs) (.binary op left right)
  /-- A term is an expression. -/
  | term {tokens : List Token} {expr : Expr} (term : Derives .term tokens expr) :
      Derives .expression tokens expr
  /-- An expression plus or minus a term is an expression.  The kind of `sign` says that there is an
  operation, and its text says which one. -/
  | sum {ls rs : List Token} {sign : Token} {left right : Expr} {op : Operator}
      (first : Derives .expression ls left) (kind : sign.kind = .plus ∨ sign.kind = .minus)
      (symbol : Operator.ofSymbol? sign.text = some op) (second : Derives .term rs right) :
      Derives .expression (ls ++ sign :: rs) (.binary op left right)

end IntScript
