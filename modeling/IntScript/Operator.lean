/-!
# Operators

The four binary operators of the language.  An operator is written by its symbol, and
`precedence` says how tightly it binds: multiplication and division bind tighter than
addition and subtraction.
-/

namespace IntScript

/-- A binary operator. -/
inductive Operator where
  | add
  | sub
  | mul
  | div
deriving DecidableEq

namespace Operator

/-- The symbol that an operator is written with, in tokens as in canonical texts. -/
def symbol : Operator → String
  | add => "+"
  | sub => "-"
  | mul => "*"
  | div => "/"

/-- The operator whose symbol is `text`. -/
def ofSymbol? (text : String) : Option Operator :=
  if text = "+" then some add
  else if text = "-" then some sub
  else if text = "*" then some mul
  else if text = "/" then some div
  else none

/-- The binding strength of an operator: `mul` and `div` bind tighter than `add` and `sub`. -/
def precedence : Operator → Nat
  | add | sub => 1
  | mul | div => 2

@[simp]
theorem ofSymbol?_symbol (op : Operator) :
  ofSymbol? op.symbol = some op
  := by
  cases op <;> decide

/-- A `text` names the operator `op` exactly when it is the symbol of `op`. -/
theorem ofSymbol?_eq_some_iff {text : String} {op : Operator} :
  ofSymbol? text = some op ↔ text = op.symbol
  := by
  cases op <;> grind [ofSymbol?, Operator.symbol]

end Operator

end IntScript
