import IntScript.Error
import IntScript.Text.Quoted

/-!
# Details of errors

The form in which the log records an error: the name of the cause, followed by its
particulars with their names.
-/

namespace IntScript

/-- The `label` and, between braces, the `particulars` with their names. -/
def detailed (label : String) (particulars : List (String × String)) : String :=
  label ++ " \x7b "
    ++ ", ".intercalate (particulars.map fun (name, text) => name ++ ": " ++ text)
    ++ " \x7d"

/-- The name of a kind of token in the log, which is not `Kind.name`. -/
def Kind.details : Kind → String
  | print => "Print"
  | lparen => "LParen"
  | rparen => "RParen"
  | plus => "Plus"
  | minus => "Minus"
  | multiply => "Multiply"
  | divide => "Divide"
  | equals => "Equals"
  | number => "Number"
  | identifier => "Identifier"

/-- The `token` in full: its kind and its text. -/
def Token.details (token : Token) : String :=
  detailed "Token" [("kind", token.kind.details), ("text", Quoted.text token.text)]

/-- The `fault` in full: its character and its position. -/
def UnexpectedCharacter.details (fault : UnexpectedCharacter) : String :=
  detailed fault.label
    [("character", Quoted.char fault.character), ("position", Decimal.text fault.position)]

/-- An expectation in full, which is `Expectation.text` in quotes. -/
def Expectation.details (expected : Expectation) : String :=
  Quoted.text expected.text

/-- The `cause` in full.  A token that may be missing is shown with `Some` or as `None`. -/
def ParseError.details (cause : ParseError) : String :=
  match cause with
  | emptyStatement | emptyExpression => cause.label
  | unexpectedToken token expected =>
    detailed cause.label [("token", token.details), ("expected", expected.details)]
  | unexpectedEnd expected => detailed cause.label [("expected", expected.details)]
  | unclosedParen none => detailed cause.label [("found", "None")]
  | unclosedParen (some token) =>
    detailed cause.label [("found", "Some(" ++ token.details ++ ")")]
  | trailingTokens first | invalidStatement first =>
    detailed cause.label [("token", first.details)]
  | invalidNumber text | unknownOperator text =>
    detailed cause.label [("text", Quoted.text text)]

/-- The `cause` in full.  The reason of `RuntimeError.output` is an error of the kind `Other`. -/
def RuntimeError.details (cause : RuntimeError) : String :=
  match cause with
  | unknownVariable name => detailed cause.label [("name", Quoted.text name)]
  | divisionByZero => cause.label
  | bareExpression => detailed cause.label [("kind", Quoted.text "expression")]
  | output reason =>
    cause.label ++ "(" ++ detailed "Custom" [("kind", "Other"), ("error", Quoted.text reason)]
      ++ ")"

/-- The `error` in full: the stage, and the details of the cause. -/
def Error.details (error : Error) : String :=
  match error with
  | scan line cause =>
    detailed error.stage [("line", Decimal.text line), ("source", cause.details)]
  | parse line cause =>
    detailed error.stage [("line", Decimal.text line), ("source", cause.details)]
  | runtime cause => error.stage ++ "(" ++ cause.details ++ ")"

end IntScript
