import IntScript.Environment
import IntScript.Error
import IntScript.Expr

/-!
# Evaluating expressions

An expression is evaluated in an environment, the left operand before the right one.
Integers are unbounded, and division rounds toward negative infinity.
-/

namespace IntScript

/-- Applies `op` to the values `left` and `right` of its operands.  The quotient is rounded to the
floor. -/
def Operator.apply (op : Operator) (left right : Int) : Except RuntimeError Int :=
  match op with
  | add => .ok (left + right)
  | sub => .ok (left - right)
  | mul => .ok (left * right)
  | div => if right = 0 then .error .divisionByZero else .ok (left.fdiv right)

/-- The value of an expression in `env`, or the first failure on the way to it, the left operand
before the right one. -/
def Expr.eval (env : Environment) : Expr → Except RuntimeError Int
  | num value => .ok value
  | name identifier =>
    match env.get? identifier with
    | some value => .ok value
    | none => .error (.unknownVariable identifier)
  | binary op left right =>
    match left.eval env with
    | .error cause => .error cause
    | .ok a =>
      match right.eval env with
      | .error cause => .error cause
      | .ok b => op.apply a b

end IntScript
