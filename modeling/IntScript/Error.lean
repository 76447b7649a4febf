import IntScript.Token.Scan
import IntScript.Text.Decimal

/-!
# Errors

Why a program cannot be read or carried out.  A line is refused by the scanner with an
`UnexpectedCharacter`, or by the grammar with a `ParseError`; a program that was read fails
with a `RuntimeError`.  `Error` collects the three, with the number of the line in the
first two cases.

Every cause has a `message` for the user and a `label` that names it.
-/

namespace IntScript

/-! ### Characters -/

namespace UnexpectedCharacter

/-- The name of the cause. -/
def label (_ : UnexpectedCharacter) : String :=
  "UnexpectedCharacter"

/-- The text shown to the user, with the `character` and its `position`. -/
def message (fault : UnexpectedCharacter) : String :=
  "Unexpected character '" ++ fault.character.toString ++ "' at position "
    ++ Decimal.text fault.position ++ "."

end UnexpectedCharacter

/-! ### Grammar -/

/-- What the grammar calls for where something else was found: an `operand`, or the parenthesis
`openingAfterPrint`. -/
inductive Expectation where
  | operand
  | openingAfterPrint
deriving DecidableEq

/-- An expectation in words. -/
def Expectation.text : Expectation → String
  | operand => "a number, a name or '('"
  | openingAfterPrint => "'(' after 'print'"

/-- Why a list of tokens is refused by the grammar.  The token at fault is kept, and in
`invalidNumber` and `unknownOperator` its text. -/
inductive ParseError where
  | emptyStatement
  | emptyExpression
  | unexpectedToken (token : Token) (expected : Expectation)
  | unexpectedEnd (expected : Expectation)
  | unclosedParen (found : Option Token)
  | trailingTokens (first : Token)
  | invalidStatement (first : Token)
  | invalidNumber (text : String)
  | unknownOperator (text : String)
deriving DecidableEq

namespace ParseError

/-- The name of the cause. -/
def label : ParseError → String
  | emptyStatement => "EmptyStatement"
  | emptyExpression => "EmptyExpression"
  | unexpectedToken _ _ => "UnexpectedToken"
  | unexpectedEnd _ => "UnexpectedEndOfInput"
  | unclosedParen _ => "ExpectedClosingParen"
  | trailingTokens _ => "UnexpectedTrailingTokens"
  | invalidStatement _ => "InvalidStatement"
  | invalidNumber _ => "InvalidNumber"
  | unknownOperator _ => "UnknownOperator"

/-- The text shown to the user.  Tokens are shown by `Token.description`. -/
def message : ParseError → String
  | emptyStatement => "Empty statement."
  | emptyExpression => "Empty expression."
  | unexpectedToken token expected =>
    "Unexpected token " ++ token.description ++ ", expected " ++ expected.text ++ "."
  | unexpectedEnd expected =>
    "Unexpected end of input, expected " ++ expected.text ++ "."
  | unclosedParen none =>
    "Expected closing parenthesis ')' but found end of input."
  | unclosedParen (some token) =>
    "Expected closing parenthesis ')' but found " ++ token.description ++ "."
  | trailingTokens first =>
    "Extra tokens after expression, starting at " ++ first.description ++ "."
  | invalidStatement first =>
    "Invalid statement starting with " ++ first.description
      ++ ". Expected 'print(...)' or 'name = ...'."
  | invalidNumber text => "Invalid number literal '" ++ text ++ "'."
  | unknownOperator text => "Unknown operator '" ++ text ++ "'."

end ParseError

/-! ### Execution -/

/-- Why the execution of a program stops early.  A write that is refused fails with `output`, for
the `reason` that the sink gives. -/
inductive RuntimeError where
  | unknownVariable (name : String)
  | divisionByZero
  | bareExpression
  | output (reason : String)
deriving DecidableEq

namespace RuntimeError

/-- The name of the cause. -/
def label : RuntimeError → String
  | unknownVariable _ => "UnknownVariable"
  | divisionByZero => "DivisionByZero"
  | bareExpression => "UnsupportedNode"
  | output _ => "Output"

/-- The text shown to the user. -/
def message : RuntimeError → String
  | unknownVariable name => "Name '" ++ name ++ "' is not defined."
  | divisionByZero => "Division by zero."
  | bareExpression => "Cannot evaluate a bare expression as a statement."
  | output reason => "Failed to write output: " ++ reason

end RuntimeError

/-! ### Programs -/

/-- Why a program fails: a `line` is refused by `tokenize`, or by `Statement.parse`, or the
execution stops early.  Lines are counted from one. -/
inductive Error where
  | scan (line : Nat) (cause : UnexpectedCharacter)
  | parse (line : Nat) (cause : ParseError)
  | runtime (cause : RuntimeError)
deriving DecidableEq

namespace Error

/-- The name of the cause, whatever the stage. -/
def label : Error → String
  | scan _ cause => cause.label
  | parse _ cause => cause.label
  | runtime cause => cause.label

/-- The name of the stage at which a program failed. -/
def stage : Error → String
  | scan _ _ => "Lex"
  | parse _ _ => "Parse"
  | runtime _ => "Runtime"

/-- The line at fault, or `none` if the execution failed. -/
def line? : Error → Option Nat
  | scan line _ => some line
  | parse line _ => some line
  | runtime _ => none

/-- The text shown to the user: the number of the line, if there is one at fault, and the message of
the cause. -/
def message : Error → String
  | scan line cause => "Error on line " ++ Decimal.text line ++ ": " ++ cause.message
  | parse line cause => "Error on line " ++ Decimal.text line ++ ": " ++ cause.message
  | runtime cause => cause.message

end Error

end IntScript
