import IntScript.Proofs.Environment
import Mathlib.Logic.Function.Basic

/-!
# Operations on environments

Environments are kept in slots.  An empty environment can be put into a slot, or one made from
bindings, or a clone of the environment in another slot, and a name can be assigned to in the
environment in a slot.

Whatever operations were carried out, the environment in a slot is determined by the bindings that
were given to it.  `Operation.given` goes back through the operations to find them: a clone was
given what its original had been given before.  Of the bindings only the last one for each name
counts (`Slots.after_eq_ofList`).  An operation has no effect on other slots than its own, so a
clone and its original go separate ways (`Slots.after_append_of_ne`).  Together this makes
environments finite maps (`Slots.environments_are_finite_maps`).
-/

namespace IntScript

/-- The environments in all the slots, which are numbered. -/
abbrev Slots := Nat → Environment

/-- An operation on the environment in the slot `target`: an empty environment is put there, or one
built from `bindings`, or a clone of the one in the slot `original`, or `name` is assigned to. -/
inductive Operation where
  | new (target : Nat)
  | collect (target : Nat) (bindings : List Binding)
  | assign (target : Nat) (name : String) (value : Int)
  | clone (target original : Nat)
deriving DecidableEq

namespace Operation

/-- The slot that an operation acts on. -/
def target : Operation → Nat
  | new target | collect target _ | assign target _ _ | clone target _ => target

/-- The environment that an operation leaves in its `target`, when it is carried out on `slots`. -/
def result (slots : Slots) : Operation → Environment
  | new _ => .empty
  | collect _ bindings => .ofList bindings
  | assign target name value => (slots target).assign name value
  | clone _ original => slots original

/-- Carries out `operation`, which changes its `target` alone. -/
def apply (slots : Slots) (operation : Operation) : Slots :=
  Function.update slots operation.target (operation.result slots)

/-- The bindings that the environment in a slot was given, the first one first.  Of the operations
that were carried out, the last one comes first: a `clone` was given what its original had been
given before. -/
def given : List Operation → Nat → List Binding
  | [], _ => []
  | new target :: earlier, slot => if target = slot then [] else given earlier slot
  | collect target bindings :: earlier, slot =>
    if target = slot then bindings else given earlier slot
  | assign target name value :: earlier, slot =>
    if target = slot then given earlier slot ++ [(name, value)] else given earlier slot
  | clone target original :: earlier, slot =>
    if target = slot then given earlier original else given earlier slot

/-- If `slot` is not the target of `operation`, then its environment is left alone. -/
theorem apply_of_ne (slots : Slots) {operation : Operation} {slot : Nat}
    (h : operation.target ≠ slot) :
  apply slots operation slot = slots slot
  := Function.update_of_ne h.symm _ slots

/-- If `slot` is not the target of `operation`, then it is given nothing by it. -/
theorem given_of_ne {operation : Operation} {slot : Nat} (h : operation.target ≠ slot)
    (earlier : List Operation) :
  given (operation :: earlier) slot = given earlier slot
  := by
  cases operation <;> apply if_neg h

/-- If each environment in `slots` is `Environment.ofList` of what it was given, then it still is
after one more `operation`. -/
theorem apply_eq_ofList {slots : Slots} {earlier : List Operation} (operation : Operation)
    (h : ∀ slot, slots slot = .ofList (given earlier slot)) (slot : Nat) :
  apply slots operation slot = .ofList (given (operation :: earlier) slot)
  := by
  by_cases htarget : operation.target = slot
  · rw [← htarget, apply, Function.update_self]
    cases operation with
    | new target =>
      simp only [Operation.target, given, if_pos]
      rfl
    | collect target bindings => simp only [Operation.target, given, result, if_pos]
    | assign target name value =>
      simp only [Operation.target, given, result, if_pos, h, Environment.ofList_concat]
    | clone target original => simp only [Operation.target, given, result, if_pos, h]
  · rw [apply_of_ne slots htarget, given_of_ne htarget, h]

end Operation

namespace Slots

/-- The environments after `operations`, carried out from the first to the last, when all were empty
before. -/
def after (operations : List Operation) : Slots :=
  operations.foldl Operation.apply fun _ => .empty

/-- One more `operation` is carried out last. -/
theorem after_concat (operations : List Operation) (operation : Operation) :
  after (operations ++ [operation]) = operation.apply (after operations)
  := by
  rw [after, List.foldl_append]
  rfl

/-- The environment in each `slot` is `Environment.ofList` of what it was given. -/
theorem after_eq_ofList (operations : List Operation) (slot : Nat) :
  after operations slot = .ofList (Operation.given operations.reverse slot)
  := by
  induction operations using List.reverseRecOn generalizing slot with
  | nil => rfl
  | append_singleton operations operation ih =>
    rw [after_concat, List.reverse_concat]
    apply Operation.apply_eq_ofList operation ih

/-- If no operation in `later` has the target `slot`, then they leave its environment as it is. -/
theorem after_append_of_ne (operations : List Operation) {later : List Operation} {slot : Nat}
    (h : ∀ operation ∈ later, operation.target ≠ slot) :
  after (operations ++ later) slot = after operations slot
  := by
  induction later using List.reverseRecOn with
  | nil => rw [List.append_nil]
  | append_singleton later operation ih =>
    obtain ⟨hlater, hoperation⟩ := List.forall_mem_append.mp h
    rw [← List.append_assoc, after_concat,
      Operation.apply_of_ne _ (hoperation operation List.mem_cons_self), ih hlater]

/-- After any `operations`, the environment `env` in `slot` is a finite map.  A name stands for the
integer in the last binding for it among `bindings`, which `env` was given; `size` counts the
distinct names given, `isEmpty` says whether there are none, and `toList` lists each of them once,
with what it stands for.  Two environments are equal if and only if `get?` agrees on every name,
whatever operations they come from.  A clone of `env` is equal to it, and nothing that is done to
the environments in other slots, clones among them, changes `env`. -/
theorem environments_are_finite_maps (operations : List Operation) (slot : Nat) :
  let env := after operations slot
  let bindings := Operation.given operations.reverse slot
  (∀ name, env.get? name = bindings.reverse.lookup name)
  ∧ env.size = (bindings.map Prod.fst).toFinset.card
  ∧ (env.isEmpty ↔ bindings = [])
  ∧ ((env.toList.map Prod.fst).Nodup
    ∧ ∀ name value, (name, value) ∈ env.toList ↔ env.get? name = some value)
  ∧ (∀ others other, env = after others other
    ↔ ∀ name, env.get? name = (after others other).get? name)
  ∧ (∀ copy, after (operations ++ [.clone copy slot]) copy = env)
  ∧ ∀ later : List Operation, (∀ operation ∈ later, operation.target ≠ slot) →
    after (operations ++ later) slot = env
  := by
  intro env bindings
  have henv : env = .ofList bindings := after_eq_ofList operations slot
  refine ⟨?_, ?_, ?_, ⟨env.nodup_names, ?_⟩, ?_, ?_, ?_⟩
  · intro name
    rw [henv, Environment.get?_ofList]
  · rw [henv, Environment.size_ofList]
  · rw [henv, Environment.isEmpty_ofList]
  · intro name value
    apply Environment.mem_toList_iff
  · intro others other
    constructor
    · intro h name
      rw [h]
    · apply Environment.ext_get?
  · intro copy
    rw [after_concat]
    apply Function.update_self
  · intro later hlater
    apply after_append_of_ne operations hlater

/-- The environment in slot 0 was given some names twice, and is equal to one that was given them
once, in another order.  It keeps its bindings when its clone in slot 1 is assigned to. -/
theorem environments_are_finite_maps_given_twice :
  let operations : List Operation :=
    [.collect 0 [("x", 1), ("y", 2), ("x", 3)], .assign 0 "y" 5]
  let later : List Operation := [.clone 1 0, .assign 1 "x" 7]
  ((after operations 0).get? "x" = some 3 ∧ (after operations 0).size = 2)
  ∧ after operations 0 = after [.new 4, .assign 4 "y" 5, .assign 4 "x" 3] 4
  ∧ (∀ operation ∈ later, operation.target ≠ 0)
  ∧ (after (operations ++ later) 0).get? "x" = some 3
  ∧ (after (operations ++ later) 1).get? "x" = some 7
  := by
  intro operations later
  have hother : ∀ operation ∈ later, operation.target ≠ 0 := by decide
  obtain ⟨hget, hsize, -, -, -, -, hkeeps⟩ := environments_are_finite_maps operations 0
  have hx : (after operations 0).get? "x" = some 3 := hget "x"
  refine ⟨⟨hx, hsize⟩, by decide, hother, ?_, by decide⟩
  rw [hkeeps later hother, hx]

end Slots

end IntScript
