import IntScript.Statement

/-!
# Names in programs

The names that an expression or a statement reads, the name that a statement assigns to, and
the names that a program reads before it assigns to them.  Two statements are independent when
neither assigns to a name that occurs in the other, and they do not both print.
-/

namespace IntScript

/-- The names that an expression reads, from left to right, as often as they occur. -/
def Expr.reads : Expr → List String
  | num _ => []
  | name identifier => [identifier]
  | binary _ left right => left.reads ++ right.reads

namespace Statement

/-- The names that the expression of a statement reads. -/
def reads : Statement → List String
  | print none => []
  | print (some value) => value.reads
  | assign _ value => value.reads

/-- The name that a statement assigns to, or `none` for `print`. -/
def assigns? : Statement → Option String
  | print _ => none
  | assign name _ => some name

/-- Whether a statement prints a line. -/
def prints : Statement → Bool
  | print _ => true
  | assign _ _ => false

/-- Neither of `s` and `t` assigns to a name that occurs in the other, and not both print. -/
def Independent (s t : Statement) : Prop :=
  (∀ name, s.assigns? = some name → name ∉ t.reads ∧ t.assigns? ≠ some name)
    ∧ (∀ name, t.assigns? = some name → name ∉ s.reads ∧ s.assigns? ≠ some name)
    ∧ ¬ (s.prints ∧ t.prints)

end Statement

namespace Program

/-- The names that `program` assigns to, in order and as often as they are assigned to. -/
def assigns (program : Program) : List String :=
  program.filterMap Statement.assigns?

/-- Some statement of `program` reads `name`, and no earlier one assigns to it. -/
def LiveIn (program : Program) (name : String) : Prop :=
  ∃ before statement after, program = before ++ statement :: after
    ∧ name ∈ statement.reads ∧ name ∉ assigns before

/-- The second program comes from the first by swapping neighbouring statements that are
`Statement.Independent`, any number of times. -/
inductive Rearranged : Program → Program → Prop where
  | refl (p : Program) : Rearranged p p
  | swap {p q before after : Program} {s t : Statement} (independent : s.Independent t)
      (first : p = before ++ s :: t :: after)
      (rest : Rearranged (before ++ t :: s :: after) q) : Rearranged p q

end Program

end IntScript
