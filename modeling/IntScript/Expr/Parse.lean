import IntScript.Error
import IntScript.Expr

/-!
# Parsing expressions

Expressions follow the grammar

* expression: a term, or an expression, `+` or `-`, and a term;
* term: a factor, or a term, `*` or `/`, and a factor;
* factor: a number, a name, or an expression in parentheses.

The parser goes through the tokens once.  What it has read so far is kept in levels, one
for each parenthesis still open: the sum and the product that wait for their right operand.
The kind of a token decides where an operator stands in the grammar, and its text decides
which operator it is.

`Expr.parseAt` parses one of the three rules from an index on, and `Expr.parse` an
expression that takes up all the tokens.
-/

namespace IntScript

/-- The rules of the grammar of expressions: an `expression` is made of terms, a `term` of factors,
and a `factor` is a leaf or an expression in parentheses. -/
inductive Rule where
  | expression
  | term
  | factor
deriving DecidableEq

/-- The two kinds of operations: a `sum` of terms and a `product` of factors. -/
inductive Tier where
  | sum
  | product
deriving DecidableEq

/-- The operation, if any, that a token of the given kind continues a rule with.  Each operation
that continues `Rule.term` continues `Rule.expression` too. -/
def Rule.continuation? : Rule → Kind → Option Tier
  | expression, .plus | expression, .minus => some .sum
  | expression, .multiply | expression, .divide => some .product
  | term, .multiply | term, .divide => some .product
  | _, _ => none

/-- The `left` operand and its `operator`, waiting for the right operand. -/
structure Pending where
  left : Expr
  operator : Operator
deriving DecidableEq

/-- Supplies the operand `right`; without a pending operator, `right` stands for itself. -/
def Pending.complete : Option Pending → Expr → Expr
  | none, right => right
  | some pending, right => .binary pending.operator pending.left right

/-- What has been read of a `rule`: the `sum` before the current term, and the `product` before the
current factor. -/
structure Level where
  rule : Rule
  sum : Option Pending
  product : Option Pending
deriving DecidableEq

namespace Level

/-- Nothing has been read of `rule`. -/
def start (rule : Rule) : Level :=
  ⟨rule, none, none⟩

/-- The tree of the rule if it ends with `factor`. -/
def finish (level : Level) (factor : Expr) : Expr :=
  Pending.complete level.sum (Pending.complete level.product factor)

/-- The level after `factor` and the operator `op`, which belongs to an operation of the given tier.
-/
def extend (level : Level) (factor : Expr) (op : Operator) : Tier → Level
  | .sum => ⟨level.rule, some ⟨level.finish factor, op⟩, none⟩
  | .product => ⟨level.rule, level.sum, some ⟨Pending.complete level.product factor, op⟩⟩

/-- The error if the tokens end where an operand is due. -/
def missingOperand (level : Level) : ParseError :=
  if level = start .expression then .emptyExpression else .unexpectedEnd .operand

end Level

namespace Expr

mutual

/-- Parses tokens from a place where an operand is due in `level`.  The levels `outer` are those
around the open parentheses, the innermost first. -/
def parseOperand (level : Level) (outer : List Level) :
    List Token → Except ParseError (Expr × List Token)
  | [] => .error level.missingOperand
  | token :: rest =>
    match token.kind with
    | .number =>
      match Decimal.read? token.text with
      | some value => parseContinuation level outer (.num value) rest
      | none => .error (.invalidNumber token.text)
    | .identifier => parseContinuation level outer (.name token.text) rest
    | .lparen => parseOperand (.start .expression) (level :: outer) rest
    | _ => .error (.unexpectedToken token .operand)

/-- Parses tokens from a place right behind `factor`, which is the last operand in `level` so far.
-/
def parseContinuation (level : Level) (outer : List Level) (factor : Expr) :
    List Token → Except ParseError (Expr × List Token)
  | [] =>
    match outer with
    | [] => .ok (level.finish factor, [])
    | _ :: _ => .error (.unclosedParen none)
  | token :: rest =>
    match level.rule.continuation? token.kind with
    | some tier =>
      match Operator.ofSymbol? token.text with
      | some op => parseOperand (level.extend factor op tier) outer rest
      | none => .error (.unknownOperator token.text)
    | none =>
      match outer with
      | [] => .ok (level.finish factor, token :: rest)
      | next :: outer =>
        if token.kind = .rparen then
          parseContinuation next outer (level.finish factor) rest
        else
          .error (.unclosedParen (some token))

end

/-- Parses `rule` at the front of `tokens`.  The answer is the tree and the tokens that follow it.
-/
def parseRule (rule : Rule) (tokens : List Token) : Except ParseError (Expr × List Token) :=
  parseOperand (.start rule) [] tokens

/-- Parses `rule` from `index` on, which may be beyond the last token.  The answer is the tree and
the index of the first token behind it. -/
def parseAt (rule : Rule) (tokens : List Token) (index : Nat) :
    Except ParseError (Expr × Nat) :=
  match parseRule rule (tokens.drop index) with
  | .ok (expr, rest) => .ok (expr, tokens.length - rest.length)
  | .error cause => .error cause

/-- Parses an expression that takes up all the `tokens`. -/
def parse (tokens : List Token) : Except ParseError Expr :=
  match parseRule .expression tokens with
  | .ok (expr, []) => .ok expr
  | .ok (_, first :: _) => .error (.trailingTokens first)
  | .error cause => .error cause

end Expr

end IntScript
