import IntScript.Proofs.Environment
import IntScript.Proofs.Execution.Ideal
import IntScript.Statement.Names

/-!
# Names that are read

What an expression evaluates to depends on the names it reads, and on nothing else in the
environment.  It has a value only if all these names are bound, and if one of them is reported as
unknown, then it is not bound.  The same holds of the effect of a statement.

`Program.liveIn_cons` says which names are live at the beginning of a program in terms of its first
statement and the rest.
-/

namespace IntScript

variable {env a b : Environment}

/-! ### Expressions -/

/-- By `Operator.apply`, there is an error if and only if `op` is a division and `y` is zero. -/
theorem Operator.apply_eq_error_iff {op : Operator} {x y : Int} {cause : RuntimeError} :
  op.apply x y = .error cause ↔ op = .div ∧ y = 0 ∧ cause = .divisionByZero
  := by
  cases op with
  | add => simp [apply]
  | sub => simp [apply]
  | mul => simp [apply]
  | div => by_cases hzero : y = 0 <;> simp [apply, hzero, eq_comm]

namespace Expr

/-- The operand `left` is evaluated first, then `right`, and then `op` is applied. -/
theorem eval_binary (env : Environment) (op : Operator) (left right : Expr) :
  (binary op left right).eval env
    = left.eval env >>= fun x => right.eval env >>= fun y => op.apply x y
  := by
  rw [eval]
  cases left.eval env with
  | error cause => rfl
  | ok x => cases right.eval env <;> rfl

/-- If `a` and `b` agree on `Expr.reads`, then `expr` evaluates alike in both. -/
theorem eval_congr {expr : Expr} (h : Environment.AgreeOn (· ∈ expr.reads) a b) :
  expr.eval a = expr.eval b
  := by
  induction expr with
  | num value => rfl
  | name identifier =>
    rw [eval, eval, h identifier List.mem_cons_self]
  | binary op left right ihleft ihright =>
    have hleft : Environment.AgreeOn (· ∈ left.reads) a b :=
      fun name hmem => h name (List.mem_append_left _ hmem)
    have hright : Environment.AgreeOn (· ∈ right.reads) a b :=
      fun name hmem => h name (List.mem_append_right _ hmem)
    rw [eval_binary, eval_binary, ihleft hleft, ihright hright]

/-- If `expr` has a value, then the names in `Expr.reads` are bound. -/
theorem isSome_of_eval {expr : Expr} {value : Int} (h : expr.eval env = .ok value) :
  ∀ name ∈ expr.reads, (env.get? name).isSome
  := by
  induction expr generalizing value with
  | num _ => simp [reads]
  | name identifier =>
    intro name hmem
    obtain rfl := List.mem_singleton.mp hmem
    rw [eval] at h
    cases hget : env.get? name with
    | some _ => rfl
    | none =>
      rw [hget] at h
      cases h
  | binary op left right ihleft ihright =>
    rw [eval_binary] at h
    obtain ⟨x, hx, h⟩ := Except.bind_eq_ok_iff.mp h
    obtain ⟨y, hy, -⟩ := Except.bind_eq_ok_iff.mp h
    intro name hmem
    rcases List.mem_append.mp hmem with hmem | hmem
    · apply ihleft hx name hmem
    · apply ihright hy name hmem

/-- If `name` is reported as unknown, then it is in `Expr.reads` and not bound. -/
theorem get?_of_eval_unknown {expr : Expr} {name : String}
    (h : expr.eval env = .error (.unknownVariable name)) :
  name ∈ expr.reads ∧ env.get? name = none
  := by
  induction expr with
  | num value => cases h
  | name identifier =>
    rw [eval] at h
    split at h
    next => cases h
    next hnone =>
      cases h
      use List.mem_cons_self
  | binary op left right ihleft ihright =>
    rw [eval_binary] at h
    rcases Except.bind_eq_error_iff.mp h with hleft | ⟨x, -, h⟩
    · obtain ⟨hmem, hnone⟩ := ihleft hleft
      use List.mem_append_left _ hmem
    · rcases Except.bind_eq_error_iff.mp h with hright | ⟨y, -, happly⟩
      · obtain ⟨hmem, hnone⟩ := ihright hright
        use List.mem_append_right _ hmem
      · obtain ⟨-, -, hcause⟩ := Operator.apply_eq_error_iff.mp happly
        cases hcause

end Expr

/-! ### Statements -/

namespace Statement

variable {statement : Statement} {effect : Effect}

/-- A `statement` reads nothing and has the same effect everywhere, or its effect is the `outcome`
for the value of an `expr` that reads the same. -/
theorem effect_cases (statement : Statement) :
  (statement.reads = [] ∧ ∃ effect, ∀ env, statement.effect env = .ok effect)
    ∨ ∃ (expr : Expr) (outcome : Int → Effect), statement.reads = expr.reads
      ∧ ∀ env, statement.effect env = (expr.eval env).map outcome
  := by
  match statement with
  | print none =>
    left
    use rfl, ⟨"\n", []⟩
    intro env
    rfl
  | print (some expr) =>
    right
    use expr, fun value => ⟨Decimal.text value ++ "\n", []⟩, rfl
    intro env
    rfl
  | assign name expr =>
    right
    use expr, fun value => ⟨"", [(name, value)]⟩, rfl
    intro env
    rfl

/-- If `a` and `b` agree on `Statement.reads`, then `statement` has the same effect in both. -/
theorem effect_congr (h : Environment.AgreeOn (· ∈ statement.reads) a b) :
  statement.effect a = statement.effect b
  := by
  obtain ⟨-, effect, heffect⟩ | ⟨expr, outcome, hreads, heffect⟩ := statement.effect_cases
  · rw [heffect, heffect]
  · rw [hreads] at h
    rw [heffect, heffect, Expr.eval_congr h]

/-- If `statement` evaluates, then the names in `Statement.reads` are bound. -/
theorem isSome_of_effect (h : statement.effect env = .ok effect) :
  ∀ name ∈ statement.reads, (env.get? name).isSome
  := by
  obtain ⟨hreads, -⟩ | ⟨expr, outcome, hreads, heffect⟩ := statement.effect_cases
  · simp [hreads]
  · rw [heffect] at h
    obtain ⟨value, hvalue, -⟩ := Except.map_eq_ok_iff.mp h
    rw [hreads]
    apply Expr.isSome_of_eval hvalue

/-- If `name` is reported as unknown, then it is in `Statement.reads` and not bound. -/
theorem get?_of_effect_unknown {name : String}
    (h : statement.effect env = .error (.unknownVariable name)) :
  name ∈ statement.reads ∧ env.get? name = none
  := by
  obtain ⟨-, effect, heffect⟩ | ⟨expr, outcome, hreads, heffect⟩ := statement.effect_cases
  · rw [heffect] at h
    cases h
  · rw [heffect] at h
    rw [hreads]
    apply Expr.get?_of_eval_unknown (Except.map_eq_error_iff.mp h)

/-- If `statement` evaluates, then its bindings are for the name in `Statement.assigns?`, if there
is one. -/
theorem names_of_effect (h : statement.effect env = .ok effect) :
  effect.bindings.map Prod.fst = statement.assigns?.toList
  := by
  match statement with
  | print none =>
    cases h
    rfl
  | print (some expr) =>
    obtain ⟨value, -, rfl⟩ := Except.map_eq_ok_iff.mp h
    rfl
  | assign name expr =>
    obtain ⟨value, -, rfl⟩ := Except.map_eq_ok_iff.mp h
    rfl

end Statement

/-! ### Programs -/

namespace Program

variable {statement : Statement} {rest : Program} {name : String}

theorem assigns_cons (statement : Statement) (rest : Program) :
  assigns (statement :: rest) = statement.assigns?.toList ++ assigns rest
  := by
  cases h : statement.assigns? with
  | none => simp [assigns, h]
  | some name => simp [assigns, h]

theorem not_liveIn_nil (name : String) :
  ¬ LiveIn [] name
  := by
  rintro ⟨before, statement, after, hprogram, -, -⟩
  cases before <;> cases hprogram

/-- A `name` is live if `statement` reads it, or if it is live in the `rest` and `statement` does
not assign to it. -/
theorem liveIn_cons :
  LiveIn (statement :: rest) name
    ↔ name ∈ statement.reads ∨ (LiveIn rest name ∧ name ∉ statement.assigns?.toList)
  := by
  constructor
  · rintro ⟨before, reader, after, hprogram, hreads, hassigns⟩
    cases before with
    | nil =>
      cases hprogram
      left
      apply hreads
    | cons first before =>
      cases hprogram
      rw [assigns_cons, List.mem_append, not_or] at hassigns
      right
      use ⟨before, reader, after, rfl, hreads, hassigns.2⟩, hassigns.1
  · rintro (hreads | ⟨⟨before, reader, after, rfl, hreads, hbefore⟩, hfirst⟩)
    · use [], statement, rest, rfl, hreads
      apply List.not_mem_nil
    · use statement :: before, reader, after, rfl, hreads
      rw [assigns_cons, List.mem_append, not_or]
      use hfirst, hbefore

end Program

end IntScript
