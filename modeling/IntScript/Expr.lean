import IntScript.Operator
import IntScript.Text.Decimal

/-!
# Expressions

Expression trees, and the canonical text of a tree.  The canonical text puts one space on
each side of an operator, and parentheses around an operand only where the tree would
otherwise be read differently: around a left operand that binds looser than the operator,
and around a right operand that does not bind tighter.
-/

namespace IntScript

/-- An expression over unbounded integers: a number, a name, or an operation. -/
inductive Expr where
  | num (value : Int)
  | name (identifier : String)
  | binary (operator : Operator) (left right : Expr)
deriving DecidableEq

namespace Expr

/-- The binding strength of an expression: that of the operator of `binary`, and otherwise the
highest. -/
def precedence : Expr → Nat
  | num _ | name _ => 3
  | binary op _ _ => op.precedence

/-- The `text`, in parentheses if `parenthesised` holds. -/
def enclose (parenthesised : Bool) (text : String) : String :=
  if parenthesised then "(" ++ text ++ ")" else text

/-- The canonical text of an expression.  A left operand is in parentheses if it binds looser than
the operator, and a right operand unless it binds tighter. -/
def text : Expr → String
  | num value => Decimal.text value
  | name identifier => identifier
  | binary op left right =>
    enclose (left.precedence < op.precedence) left.text
      ++ " " ++ op.symbol ++ " "
      ++ enclose (right.precedence ≤ op.precedence) right.text

end Expr

end IntScript
