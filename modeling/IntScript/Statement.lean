import IntScript.Expr

/-!
# Statements and programs

A statement prints an expression, prints an empty line, or assigns to a name; a program is
a list of statements.  A `Node` is any piece of a program.  Each has a canonical text; in
the text of a program every statement stands on a line of its own.
-/

namespace IntScript

/-- A statement: `print` writes a line with the value of an expression, or an empty line for `none`,
and `assign` binds a name to the value of an expression. -/
inductive Statement where
  | print (value : Option Expr)
  | assign (name : String) (value : Expr)
deriving DecidableEq

/-- The canonical text of a statement, which `Expr.text` is a part of. -/
def Statement.text : Statement → String
  | print none => "print()"
  | print (some value) => "print(" ++ value.text ++ ")"
  | assign name value => name ++ " = " ++ value.text

/-- A program: its statements, in order of execution. -/
abbrev Program := List Statement

/-- The canonical text of a program: each statement on a line of its own. -/
def Program.text : Program → String
  | [] => ""
  | statement :: rest => statement.text ++ "\n" ++ Program.text rest

/-- A piece of a program: all of it, a `statement`, or an expression on its own. -/
inductive Node where
  | program (statements : Program)
  | statement (statement : Statement)
  | expression (expr : Expr)
deriving DecidableEq

namespace Node

/-- What sort of piece a node is, in a word. -/
def kind : Node → String
  | program _ => "program"
  | statement _ => "statement"
  | expression _ => "expression"

/-- The canonical text of a node, whatever its `kind` is. -/
def text : Node → String
  | program statements => Program.text statements
  | statement s => s.text
  | expression e => e.text

end Node

end IntScript
