import IntScript.Environment.Bindings

/-!
# Environments

An environment binds finitely many names to integers.  The bindings are kept in the order of
their names and no name is bound twice, so two environments are equal exactly when they bind
the same names to the same integers.
-/

namespace IntScript

/-- A finite map from names to integers, kept as a list of bindings that is `Ascending`. -/
structure Environment where
  toList : List Binding
  ascending : Ascending toList
deriving DecidableEq

namespace Environment

/-- The environment without bindings. -/
def empty : Environment :=
  ⟨[], List.Pairwise.nil⟩

/-- The integer that `name` stands for in `env`, or `none`. -/
def get? (env : Environment) (name : String) : Option Int :=
  env.toList.lookup name

/-- Binds `name` to `value`, instead of what it stood for before. -/
def assign (env : Environment) (name : String) (value : Int) : Environment :=
  ⟨insertBinding name value env.toList, ascending_insertBinding name value env.ascending⟩

@[simp]
theorem get?_empty (name : String) :
  empty.get? name = none
  := rfl

/-- In `env.assign name value` each name but `name` stands for what it did in `env`. -/
@[simp]
theorem get?_assign (env : Environment) (name x : String) (value : Int) :
  (env.assign name value).get? x = if x = name then some value else env.get? x
  := lookup_insertBinding name x value env.toList

/-- Two environments are equal if `get?` agrees on every name. -/
theorem ext_get? {a b : Environment} (h : ∀ name, a.get? name = b.get? name) :
  a = b
  := by
  obtain ⟨as, ha⟩ := a
  obtain ⟨bs, hb⟩ := b
  congr 1
  apply eq_of_lookup_eq ha hb h

/-- Assigns the given `bindings` one after the other. -/
def assignAll (env : Environment) (bindings : List Binding) : Environment :=
  bindings.foldl (fun env binding => env.assign binding.1 binding.2) env

/-- The environment built from `bindings`, of which a later one replaces an earlier one for the same
name. -/
def ofList (bindings : List Binding) : Environment :=
  empty.assignAll bindings

/-- The number of names bound in `env`. -/
def size (env : Environment) : Nat :=
  env.toList.length

/-- Whether no name is bound in `env`. -/
def isEmpty (env : Environment) : Bool :=
  env.toList.isEmpty

end Environment

end IntScript
