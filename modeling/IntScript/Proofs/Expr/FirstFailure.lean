import IntScript.Proofs.Statement.Names

/-!
# Values and failures of expressions

An expression denotes an integer by the rules of arithmetic, where a quotient is the one whose
remainder lies between zero and the divisor.  A node of an expression fails if it is a name that is
not bound, or a division in whose operands no node fails and whose divisor denotes zero.

Evaluating an expression gives the integer that it denotes, unless some node fails.  Then it gives
the failure of the first such node, where operands come before their operation and left ones before
right ones (`Expr.eval_gives_value_or_first_failure`).
-/

namespace IntScript

/-! ### Arithmetic -/

/-- The operator gives the integer `c` for the operands `a` and `b`.  In a division the remainder is
smaller than the divisor, and it has the sign of the divisor unless it is zero. -/
def Operator.Gives (op : Operator) (a b c : Int) : Prop :=
  match op with
  | add => c = a + b
  | sub => c = a - b
  | mul => c = a * b
  | div => ∃ r, a = c * b + r ∧ (0 ≤ r ∧ r < b ∨ b < r ∧ r ≤ 0)

namespace Operator

/-- Division gives `a.fdiv b`, the quotient rounded to the floor, and nothing if `b` is zero. -/
theorem gives_div_iff {a b q : Int} :
  div.Gives a b q ↔ b ≠ 0 ∧ a.fdiv b = q
  := by
  constructor
  · rintro ⟨r, hr, hrange⟩
    have hsum : r + b * q = a := by rw [hr, Int.mul_comm, Int.add_comm]
    rcases hrange with hrange | hrange
    · have hpos : 0 < b := by omega
      use by omega
      apply (Int.fdiv_fmod_unique hpos |>.mpr ⟨hsum, hrange⟩).1
    · have hneg : b < 0 := by omega
      use by omega
      apply (Int.fdiv_fmod_unique' hneg |>.mpr ⟨hsum, hrange⟩).1
  · rintro ⟨hne, rfl⟩
    use a.fmod b
    have hsum : a = a.fdiv b * b + a.fmod b := by rw [Int.mul_comm, Int.mul_fdiv_add_fmod]
    rcases Int.lt_or_gt_of_ne hne with hneg | hpos
    · use hsum, .inr (Int.fdiv_fmod_unique' hneg |>.mp ⟨rfl, rfl⟩).2
    · use hsum, .inl (Int.fdiv_fmod_unique hpos |>.mp ⟨rfl, rfl⟩).2

/-- By `Operator.apply`, the result is `c` if and only if `op` gives `c`. -/
theorem apply_eq_ok_iff {op : Operator} {a b c : Int} :
  op.apply a b = .ok c ↔ op.Gives a b c
  := by
  cases op with
  | add => simp [apply, Gives, eq_comm]
  | sub => simp [apply, Gives, eq_comm]
  | mul => simp [apply, Gives, eq_comm]
  | div =>
    rw [gives_div_iff, apply]
    split
    next hzero => simp [hzero]
    next hne => simp [hne]

end Operator

namespace Expr

/-- In `env`, an expression denotes an integer. -/
inductive Denotes (env : Environment) : Expr → Int → Prop where
  | num (value : Int) :
      Denotes env (num value) value
  | name {identifier : String} {value : Int} (bound : env.get? identifier = some value) :
      Denotes env (name identifier) value
  | binary {op : Operator} {left right : Expr} {a b c : Int} (first : Denotes env left a)
      (second : Denotes env right b) (gives : op.Gives a b c) :
      Denotes env (binary op left right) c

/-! ### Nodes -/

/-- The nodes of an expression, each given by the expression that it is the top of.  Operands come
before their operation, and left ones before right ones. -/
def nodes : Expr → List Expr
  | num value => [num value]
  | name identifier => [name identifier]
  | binary op left right => left.nodes ++ right.nodes ++ [binary op left right]

theorem sizeOf_le_of_mem_nodes {node expr : Expr} (h : node ∈ expr.nodes) :
  sizeOf node ≤ sizeOf expr
  := by
  induction expr with
  | num value =>
    obtain rfl := List.mem_singleton.mp h
    apply Nat.le_refl
  | name identifier =>
    obtain rfl := List.mem_singleton.mp h
    apply Nat.le_refl
  | binary op left right ihleft ihright =>
    rw [nodes, List.mem_append, List.mem_append, List.mem_singleton] at h
    rcases h with (hleft | hright) | rfl
    · have hle := ihleft hleft
      simp only [binary.sizeOf_spec]
      omega
    · have hle := ihright hright
      simp only [binary.sizeOf_spec]
      omega
    · apply Nat.le_refl

/-- A node fails on its own account: it is a name that is not bound in `env`, or a division by zero
in whose operands no node fails. -/
def Fails (env : Environment) : Expr → RuntimeError → Prop
  | num _, _ => False
  | name identifier, cause => env.get? identifier = none ∧ cause = .unknownVariable identifier
  | binary op left right, cause =>
    op = .div ∧ (∀ node ∈ left.nodes, ∀ cause, ¬ Fails env node cause)
      ∧ (∀ node ∈ right.nodes, ∀ cause, ¬ Fails env node cause)
      ∧ Denotes env right 0 ∧ cause = .divisionByZero
termination_by expr => sizeOf expr
decreasing_by
  all_goals
    have hle := sizeOf_le_of_mem_nodes ‹_›
    simp only [binary.sizeOf_spec]
    omega

/-- None of the `nodes` fails in `env`. -/
def Intact (env : Environment) (nodes : List Expr) : Prop :=
  ∀ node ∈ nodes, ∀ cause, ¬ Fails env node cause

/-- The first of the `nodes` that fails in `env` does so with the given `cause`. -/
def FirstFails (env : Environment) (nodes : List Expr) (cause : RuntimeError) : Prop :=
  ∃ before node after, nodes = before ++ node :: after ∧ Intact env before ∧ Fails env node cause

variable {env : Environment}

/-! ### The first failure -/

theorem intact_append {xs ys : List Expr} :
  Intact env (xs ++ ys) ↔ Intact env xs ∧ Intact env ys
  := List.forall_mem_append

theorem intact_singleton {node : Expr} :
  Intact env [node] ↔ ∀ cause, ¬ Fails env node cause
  := List.forall_mem_singleton

/-- A `node` fails with one `cause` only. -/
theorem Fails.unique {node : Expr} {cause cause' : RuntimeError} (h : Fails env node cause)
    (h' : Fails env node cause') :
  cause = cause'
  := by
  cases node with
  | num value =>
    rw [Fails] at h
    cases h
  | name identifier =>
    rw [Fails] at h h'
    rw [h.2, h'.2]
  | binary op left right =>
    rw [Fails] at h h'
    obtain ⟨-, -, -, -, rfl⟩ := h
    obtain ⟨-, -, -, -, rfl⟩ := h'
    rfl

namespace FirstFails

variable {xs ys : List Expr} {cause : RuntimeError}

/-- If `xs` has a first failure, then it is that of `xs ++ ys`. -/
theorem append (h : FirstFails env xs cause) (ys : List Expr) :
  FirstFails env (xs ++ ys) cause
  := by
  obtain ⟨before, node, after, rfl, hbefore, hnode⟩ := h
  use before, node, after ++ ys
  rw [List.append_assoc, List.cons_append]
  use rfl, hbefore, hnode

/-- If no node of `xs` fails, then the first failure of `ys` is that of `xs ++ ys`. -/
theorem prepend (hxs : Intact env xs) (h : FirstFails env ys cause) :
  FirstFails env (xs ++ ys) cause
  := by
  obtain ⟨before, node, after, rfl, hbefore, hnode⟩ := h
  use xs ++ before, node, after
  rw [List.append_assoc, intact_append]
  use rfl, ⟨hxs, hbefore⟩, hnode

theorem singleton {node : Expr} (h : Fails env node cause) :
  FirstFails env [node] cause
  := by
  use [], node, [], rfl
  constructor
  · intro earlier hmem
    cases hmem
  · apply h

theorem not_intact (h : FirstFails env xs cause) :
  ¬ Intact env xs
  := by
  obtain ⟨before, node, after, rfl, -, hnode⟩ := h
  intro hintact
  apply hintact node (List.mem_append_right _ List.mem_cons_self) cause hnode

/-- The first failure of `node :: xs` is that of `node`, or `node` does not fail and it is that of
`xs`. -/
theorem of_cons {node : Expr} (h : FirstFails env (node :: xs) cause) :
  Fails env node cause ∨ (∀ cause, ¬ Fails env node cause) ∧ FirstFails env xs cause
  := by
  obtain ⟨before, failing, after, hnodes, hbefore, hfailing⟩ := h
  cases before with
  | nil =>
    cases hnodes
    left
    apply hfailing
  | cons first before =>
    cases hnodes
    obtain ⟨hfirst, hbefore⟩ := List.forall_mem_cons.mp hbefore
    right
    use hfirst, before, failing, after, rfl, hbefore, hfailing

/-- The first failure of `xs` is determined by `xs`. -/
theorem unique {cause' : RuntimeError} (h : FirstFails env xs cause)
    (h' : FirstFails env xs cause') :
  cause = cause'
  := by
  induction xs with
  | nil =>
    obtain ⟨before, node, after, hnodes, -⟩ := h
    cases before <;> cases hnodes
  | cons node rest ih =>
    rcases h.of_cons with hfails | ⟨hintact, hrest⟩
    · rcases h'.of_cons with hfails' | ⟨hintact, -⟩
      · apply hfails.unique hfails'
      · cases hintact cause hfails
    · rcases h'.of_cons with hfails' | ⟨-, hrest'⟩
      · cases hintact cause' hfails'
      · apply ih hrest hrest'

end FirstFails

/-- By `Expr.eval`, the value is the integer that `expr` denotes. -/
theorem eval_eq_ok_iff {expr : Expr} {value : Int} :
  expr.eval env = .ok value ↔ Denotes env expr value
  := by
  constructor
  · intro h
    induction expr generalizing value with
    | num n =>
      cases h
      apply Denotes.num
    | name identifier =>
      rw [eval] at h
      split at h
      next n hbound =>
        cases h
        apply Denotes.name hbound
      next => cases h
    | binary op left right ihleft ihright =>
      rw [eval_binary] at h
      obtain ⟨a, ha, h⟩ := Except.bind_eq_ok_iff.mp h
      obtain ⟨b, hb, h⟩ := Except.bind_eq_ok_iff.mp h
      apply Denotes.binary (ihleft ha) (ihright hb) (Operator.apply_eq_ok_iff.mp h)
  · intro h
    induction h with
    | num n => rfl
    | name bound => rw [eval, bound]
    | binary _ _ gives ihleft ihright =>
      rw [eval_binary, ihleft, ihright]
      apply Operator.apply_eq_ok_iff.mpr gives

/-- If no node of `left` and `right` fails, then the operation fails if and only if `op` cannot be
applied to their values. -/
theorem fails_binary_iff {op : Operator} {left right : Expr} {a b : Int} {cause : RuntimeError}
    (hleft : Intact env left.nodes) (hright : Intact env right.nodes)
    (hvalue : right.eval env = .ok b) :
  Fails env (binary op left right) cause ↔ op.apply a b = .error cause
  := by
  have hzero : Denotes env right 0 ↔ b = 0 := by
    rw [← eval_eq_ok_iff, hvalue, Except.ok.injEq]
  rw [Fails, Operator.apply_eq_error_iff, hzero]
  constructor
  · rintro ⟨hop, -, -, hzero, hcause⟩
    exact ⟨hop, hzero, hcause⟩
  · rintro ⟨hop, hzero, hcause⟩
    exact ⟨hop, hleft, hright, hzero, hcause⟩

/-- If `expr` has a value, then none of its nodes fails. -/
theorem intact_of_eval {expr : Expr} {value : Int} (h : expr.eval env = .ok value) :
  Intact env expr.nodes
  := by
  induction expr generalizing value with
  | num n =>
    apply intact_singleton.mpr
    intro cause hfails
    rw [Fails] at hfails
    apply hfails
  | name identifier =>
    apply intact_singleton.mpr
    intro cause hfails
    rw [Fails] at hfails
    rw [eval, hfails.1] at h
    cases h
  | binary op left right ihleft ihright =>
    rw [eval_binary] at h
    obtain ⟨a, ha, h⟩ := Except.bind_eq_ok_iff.mp h
    obtain ⟨b, hb, h⟩ := Except.bind_eq_ok_iff.mp h
    have hleft := ihleft ha
    have hright := ihright hb
    rw [nodes, intact_append, intact_append, intact_singleton]
    refine ⟨⟨hleft, hright⟩, ?_⟩
    intro cause hfails
    rw [fails_binary_iff hleft hright hb, h] at hfails
    cases hfails

/-- If `expr` has no value, then the `cause` is that of its first node that fails. -/
theorem firstFails_of_eval {expr : Expr} {cause : RuntimeError}
    (h : expr.eval env = .error cause) :
  FirstFails env expr.nodes cause
  := by
  induction expr with
  | num n => cases h
  | name identifier =>
    apply FirstFails.singleton
    rw [eval] at h
    split at h
    next => cases h
    next hnone =>
      cases h
      rw [Fails]
      exact ⟨hnone, rfl⟩
  | binary op left right ihleft ihright =>
    rw [eval_binary] at h
    rw [nodes]
    rcases Except.bind_eq_error_iff.mp h with hleft | ⟨a, ha, h⟩
    · apply ((ihleft hleft).append _).append
    · have hleft := intact_of_eval ha
      rcases Except.bind_eq_error_iff.mp h with hright | ⟨b, hb, h⟩
      · apply ((ihright hright).prepend hleft).append
      · have hright := intact_of_eval hb
        apply FirstFails.prepend (intact_append.mpr ⟨hleft, hright⟩)
        apply FirstFails.singleton
        apply (fails_binary_iff hleft hright hb).mpr h

/-- By `Expr.eval`, there is a value if and only if no node of `expr` fails, and it is the one that
`expr` denotes; otherwise the error is that of the first node that fails.  In a division of `a` by
`b` there is exactly one quotient unless `b` is zero. -/
theorem eval_gives_value_or_first_failure (expr : Expr) (env : Environment) :
  ((∃ value, expr.eval env = .ok value) ↔ Intact env expr.nodes)
    ∧ (∀ value, expr.eval env = .ok value ↔ Denotes env expr value)
    ∧ (∀ cause, expr.eval env = .error cause ↔ FirstFails env expr.nodes cause)
    ∧ ∀ a b, (∃! q, Operator.div.Gives a b q) ↔ b ≠ 0
  := by
  refine ⟨?_, ?_, ?_, ?_⟩
  · constructor
    · rintro ⟨value, hvalue⟩
      apply intact_of_eval hvalue
    · intro hintact
      cases heval : expr.eval env with
      | ok value => use value
      | error cause => cases (firstFails_of_eval heval).not_intact hintact
  · intro value
    apply eval_eq_ok_iff
  · intro cause
    constructor
    · apply firstFails_of_eval
    · intro hfirst
      cases heval : expr.eval env with
      | ok value => cases hfirst.not_intact (intact_of_eval heval)
      | error cause' => rw [hfirst.unique (firstFails_of_eval heval)]
  · intro a b
    constructor
    · rintro ⟨q, hq, -⟩
      apply (Operator.gives_div_iff.mp hq).1
    · intro hne
      use a.fdiv b, Operator.gives_div_iff.mpr ⟨hne, rfl⟩
      intro q hq
      apply (Operator.gives_div_iff.mp hq).2.symm

/-- In `1 / (y - y) + x / (x / 0)` several nodes fail.  With only `y` bound, the first of them is
the division by `y - y`, and with nothing bound it is the name `y`.  With `y` bound to seven, `(0 -
y) / 2` is rounded down. -/
theorem eval_gives_value_or_first_failure_of_quotients :
  let difference : Expr := .binary .sub (.name "y") (.name "y")
  let quotient : Expr := .binary .div (.name "x") (.binary .div (.name "x") (.num 0))
  let expr : Expr := .binary .add (.binary .div (.num 1) difference) quotient
  let env := Environment.ofList [("y", 7)]
  FirstFails env expr.nodes .divisionByZero
    ∧ FirstFails .empty expr.nodes (.unknownVariable "y")
    ∧ Denotes env (.binary .div (.binary .sub (.num 0) (.name "y")) (.num 2)) (-4)
  := by
  intro difference quotient expr env
  refine ⟨?_, ?_, ?_⟩
  · apply ((eval_gives_value_or_first_failure expr env).2.2.1 _).mp
    decide
  · apply ((eval_gives_value_or_first_failure expr .empty).2.2.1 _).mp
    decide
  · apply ((eval_gives_value_or_first_failure _ env).2.1 _).mp
    decide

end Expr

end IntScript
