import IntScript.Statement
import IntScript.Token.WellFormed

/-!
# Representable programs

A tree can be written down as a source when its literals are not negative and its names are
names of the language.
-/

namespace IntScript

/-- An expression that can be written down: no number is negative, and each name is one for
`isName`. -/
def Expr.isRepresentable : Expr → Bool
  | num value => 0 ≤ value
  | name identifier => isName identifier
  | binary _ left right => left.isRepresentable && right.isRepresentable

/-- A statement that can be written down: it assigns to a name for `isName`, and its expression can
be written down. -/
def Statement.isRepresentable : Statement → Bool
  | print none => true
  | print (some value) => value.isRepresentable
  | assign name value => isName name && value.isRepresentable

/-- A program that can be written down, because all its statements can. -/
def Program.isRepresentable (program : Program) : Bool :=
  program.all Statement.isRepresentable

end IntScript
