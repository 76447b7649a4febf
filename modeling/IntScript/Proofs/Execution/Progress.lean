import IntScript.Proofs.Execution.Truncation
import IntScript.Proofs.Statement.Names

/-!
# How far an execution comes

Whatever the room for its output, an execution carries out the statements at the front of a program
one by one, and then it has come to the end of the program, or it fails at the next statement.  At
the failure nothing changes but the sink.  So the environment it leaves behind is the one it began
with, in which the assignments made were carried out, and these are the assignments of the
statements that were done.
-/

namespace IntScript

/-- If `program` completes, then it assigns to the names in `Program.assigns`. -/
theorem Completes.names {env : Environment} {program : Program} {effect : Effect}
    (h : Completes env program effect) :
  effect.bindings.map Prod.fst = program.assigns
  := by
  induction h with
  | nil => rfl
  | cons head _ ih =>
    rw [Effect.bindings_append, List.map_append, ih, Statement.names_of_effect head,
      Program.assigns_cons]

namespace Execution

variable {execution : Execution} {statement : Statement} {program : Program}

/-! ### Single statements -/

/-- Does what a statement with this `outcome` does: fails, or prints as much of the text as there is
room for and assigns if that was all of it. -/
def perform (execution : Execution) : Except RuntimeError Effect → Execution
  | .error cause => execution.fail cause
  | .ok effect =>
    if execution.sink.accepts effect.text then execution.advance effect
    else execution.close effect.text

/-- To carry out `statement` is to evaluate it by `Statement.effect` and then to perform the
outcome. -/
theorem step_eq_perform (execution : Execution) (statement : Statement) :
  execution.step statement = execution.perform (statement.effect execution.env)
  := by
  cases heffect : statement.effect execution.env with
  | error cause => apply step_of_error heffect
  | ok effect =>
    rw [perform]
    split
    next hroom => apply step_of_accepts heffect hroom
    next hroom =>
      cases statement with
      | print value => apply step_of_refuses heffect hroom
      | assign name expr =>
        -- An assignment prints nothing, and there is always room for that.
        obtain ⟨value, -, rfl⟩ := Except.map_eq_ok_iff.mp heffect
        exfalso
        apply hroom (Sink.accepts_empty execution.sink)

/-- The `execution` has come to the end of the program, or it fails at the first `statement`, with
`RuntimeError.output` or with the error of `Statement.effect`. -/
inductive Halts (execution : Execution) : Program → Execution → Prop where
  | finished :
      Halts execution [] execution
  | failed {statement : Statement} {rest : Program} {sink : Sink} {cause : RuntimeError}
      (reason : cause = .output execution.sink.reason
        ∨ statement.effect execution.env = .error cause) :
      Halts execution (statement :: rest) { execution with sink := sink, failure := some cause }

/-- Under `statement`, the `execution` advances by its effect, or it fails and halts before any
`rest`. -/
theorem step_cases (execution : Execution) (statement : Statement) :
  (∃ effect, statement.effect execution.env = .ok effect
      ∧ execution.sink.accepts effect.text
      ∧ execution.step statement = execution.advance effect)
    ∨ ∃ cause, (execution.step statement).failure = some cause
      ∧ ∀ rest, execution.Halts (statement :: rest) (execution.step statement)
  := by
  rw [step_eq_perform]
  cases heffect : statement.effect execution.env with
  | error cause =>
    right
    use cause, rfl
    intro rest
    apply Halts.failed (.inr heffect)
  | ok effect =>
    rw [perform]
    split
    next hroom =>
      left
      use effect, rfl, hroom
    next hroom =>
      right
      use .output execution.sink.reason, rfl
      intro rest
      apply Halts.failed (.inl rfl)

/-- Where `execution` halts, `env` and `assigned` stay as they are. -/
theorem Halts.unchanged {halted : Execution} (h : execution.Halts program halted) :
  halted.env = execution.env ∧ halted.assigned = execution.assigned
  := by
  cases h with
  | finished => exact ⟨rfl, rfl⟩
  | failed reason => exact ⟨rfl, rfl⟩

/-- If `halted` has not failed, then nothing of `program` is left. -/
theorem Halts.eq_nil {halted : Execution} (h : execution.Halts program halted)
    (hnone : halted.failure = none) :
  program = []
  := by
  cases h with
  | finished => rfl
  | failed reason => cases hnone

/-- A failure of `halted` is `RuntimeError.output` or the error of the first `statement`. -/
theorem Halts.exists_of_failure {halted : Execution} {cause : RuntimeError}
    (h : execution.Halts program halted) (hnone : execution.failure = none)
    (hfailure : halted.failure = some cause) :
  ∃ statement rest, program = statement :: rest
    ∧ (cause = .output execution.sink.reason ∨ statement.effect execution.env = .error cause)
  := by
  cases h with
  | finished =>
    rw [hnone] at hfailure
    cases hfailure
  | @failed statement rest _ _ reason =>
    cases hfailure
    use statement, rest

/-! ### Programs -/

/-- How far `execution` comes with `program`: the part that is `done` and its `effect`, and the
`rest` before which it halts. -/
structure Progress (execution : Execution) (program : Program) where
  done : Program
  rest : Program
  effect : Effect
  done_append_rest : done ++ rest = program
  completes : Completes execution.env done effect
  steps_done : execution.steps done = execution.advance effect
  halts : (execution.advance effect).Halts rest (execution.steps program)

theorem exists_progress (execution : Execution) (program : Program)
    (hnone : execution.failure = none) :
  Nonempty (execution.Progress program)
  := by
  induction program generalizing execution with
  | nil =>
    refine ⟨[], [], .none, rfl, .nil, ?_, ?_⟩
    · rw [advance_none]
      rfl
    · rw [advance_none]
      apply Halts.finished
  | cons statement rest ih =>
    obtain ⟨first, heffect, hroom, hstep⟩ | ⟨cause, hfailure, hhalts⟩ :=
      execution.step_cases statement
    · have hgoing : (execution.advance first).failure = none := hnone
      obtain ⟨later⟩ := ih (execution.advance first) hgoing
      refine ⟨statement :: later.done, later.rest, first ++ later.effect, ?_, ?_, ?_, ?_⟩
      · rw [List.cons_append, later.done_append_rest]
      · apply Completes.cons heffect later.completes
      · rw [steps_cons _ _ hnone, hstep, later.steps_done, advance_append hroom]
      · rw [steps_cons _ _ hnone, hstep, advance_append hroom]
        apply later.halts
    · refine ⟨[], statement :: rest, .none, rfl, .nil, ?_, ?_⟩
      · rw [advance_none]
        rfl
      · rw [advance_none, steps_cons _ _ hnone, steps_of_failure _ hfailure]
        apply hhalts

/-- If `p ++ q` is carried out without a failure, then `p` is. -/
theorem failure_of_append {p q : Program} (h : (execution.steps (p ++ q)).failure = none) :
  (execution.steps p).failure = none
  := by
  rw [steps_append] at h
  cases hfailure : (execution.steps p).failure with
  | none => rfl
  | some cause =>
    rw [steps_of_failure _ hfailure, hfailure] at h
    cases h

namespace Progress

variable (progress : execution.Progress program)

/-- The environment left behind is the one before, with the bindings of the `effect` assigned. -/
theorem env_eq :
  (execution.steps program).env = execution.env.assignAll progress.effect.bindings
  := progress.halts.unchanged.1

theorem assigned_eq :
  (execution.steps program).assigned = execution.assigned ++ progress.effect.bindings
  := progress.halts.unchanged.2

/-- If there is no failure, then `done` is all of `program`. -/
theorem done_eq (h : (execution.steps program).failure = none) :
  progress.done = program
  := by
  have hprogram := progress.done_append_rest
  rwa [progress.halts.eq_nil h, List.append_nil] at hprogram

/-- There is no failure while the part that is `done` is carried out. -/
theorem failure_done (hnone : execution.failure = none) :
  (execution.steps progress.done).failure = none
  := by
  rw [progress.steps_done]
  apply hnone

end Progress

/-! ### The account of the assignments -/

/-- What is in `assigned` remains there. -/
theorem subset_assigned_steps (execution : Execution) (program : Program) :
  execution.assigned ⊆ (execution.steps program).assigned
  := by
  cases hfailure : execution.failure with
  | some cause =>
    rw [steps_of_failure _ hfailure]
    apply List.Subset.refl
  | none =>
    obtain ⟨progress⟩ := exists_progress execution program hfailure
    rw [progress.assigned_eq]
    apply List.subset_append_left

end Execution

namespace Program

variable {program : Program} {env : Environment} {sink : Sink} {name : String}

/-- The environment left behind is `env` with the bindings in `assigned`. -/
theorem env_execute (program : Program) (env : Environment) (sink : Sink) :
  (program.execute env sink).env = env.assignAll (program.execute env sink).assigned
  := by
  obtain ⟨progress⟩ := Execution.exists_progress (.start env sink) program rfl
  rw [execute, progress.env_eq, progress.assigned_eq]
  rfl

/-- Without a failure, the names in `assigned` are those of `Program.assigns`. -/
theorem names_execute (h : (program.execute env sink).failure = none) :
  (program.execute env sink).assigned.map Prod.fst = program.assigns
  := by
  obtain ⟨progress⟩ := Execution.exists_progress (.start env sink) program rfl
  have hnames := progress.completes.names
  rw [progress.done_eq h] at hnames
  rw [execute, progress.assigned_eq, ← hnames]
  rfl

/-- A `statement` of `program` that assigns to `name` is carried out without a failure. -/
def Rebinds (program : Program) (env : Environment) (sink : Sink) (name : String) : Prop :=
  ∃ before statement after, program = before ++ statement :: after
    ∧ statement.assigns? = some name
    ∧ (execute (before ++ [statement]) env sink).failure = none

/-- The names in `assigned` are exactly those that `program` rebinds. -/
theorem rebinds_iff :
  program.Rebinds env sink name ↔ name ∈ (program.execute env sink).assigned.map Prod.fst
  := by
  constructor
  · rintro ⟨before, statement, after, rfl, hname, hnone⟩
    have hmem : name ∈ assigns (before ++ [statement]) := by
      apply List.mem_filterMap.mpr
      use statement, List.mem_append_right _ List.mem_cons_self
    rw [← names_execute hnone] at hmem
    have hsplit : before ++ statement :: after = (before ++ [statement]) ++ after := by simp
    rw [hsplit, execute, Execution.steps_append]
    apply List.map_subset Prod.fst (Execution.subset_assigned_steps _ after) hmem
  · intro hmem
    obtain ⟨progress⟩ := Execution.exists_progress (.start env sink) program rfl
    have hnames : name ∈ assigns progress.done := by
      rw [execute, progress.assigned_eq] at hmem
      rw [← progress.completes.names]
      apply hmem
    obtain ⟨statement, hstatement, hname⟩ := List.mem_filterMap.mp hnames
    obtain ⟨before, after, hdone⟩ := List.append_of_mem hstatement
    use before, statement, after ++ progress.rest
    refine ⟨?_, hname, ?_⟩
    · rw [← List.cons_append, ← List.append_assoc, ← hdone, progress.done_append_rest]
    · apply Execution.failure_of_append (q := after)
      have hsplit : (before ++ [statement]) ++ after = progress.done := by simp [hdone]
      rw [hsplit]
      apply progress.failure_done rfl

instance : Decidable (program.Rebinds env sink name) :=
  decidable_of_iff' _ rebinds_iff

end Program

end IntScript
