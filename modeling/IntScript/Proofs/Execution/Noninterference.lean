import IntScript.Proofs.Execution.Progress

/-!
# Noninterference

Of the environment in which a program is carried out, only the names matter that are live at the
beginning of the program.  Two executions of it, in environments that agree on these names, print
the same and fail at the same point or not at all; afterwards the environments agree on the names
assigned to, and all other names stand for what they stood for before
(`Program.execute_noninterference`).

The two executions are followed in parallel.  After each statement the environments agree on the
names that are live in what is left of the program, until the executions fail.
-/

namespace IntScript

open Environment (AgreeOn)

/-- The executions `first` and `second` have done the same so far, and their environments agree on
the `live` names as long as they have not failed. -/
structure Parallel (live : String → Prop) (first second : Execution) : Prop where
  sink : first.sink = second.sink
  assigned : first.assigned = second.assigned
  failure : first.failure = second.failure
  env : first.failure = none → AgreeOn live first.env second.env

namespace Parallel

variable {live later : String → Prop} {first second : Execution}

/-- Two executions stay parallel when both perform `outcome`.  The names `later` live have to be
`live` before, unless `outcome` assigns to them. -/
theorem perform (h : Parallel live first second) (hnone : first.failure = none)
    {outcome : Except RuntimeError Effect}
    (hlater : ∀ effect, outcome = .ok effect →
      ∀ name, later name → name ∈ effect.bindings.map Prod.fst ∨ live name) :
  Parallel later (first.perform outcome) (second.perform outcome)
  := by
  cases outcome with
  | error cause =>
    refine ⟨h.sink, h.assigned, rfl, ?_⟩
    intro hfailed
    cases hfailed
  | ok effect =>
    rw [Execution.perform, Execution.perform, ← h.sink]
    split
    next =>
      refine ⟨?_, ?_, h.failure, ?_⟩
      · rw [Execution.advance, Execution.advance, h.sink]
      · rw [Execution.advance, Execution.advance, h.assigned]
      · intro _ name hname
        by_cases hmem : name ∈ effect.bindings.map Prod.fst
        · apply Environment.agreeOn_assignAll _ _ _ name hmem
        · have hlive := (hlater effect rfl name hname).resolve_left hmem
          rw [Execution.advance, Execution.advance, Environment.get?_assignAll_of_not_mem _ hmem,
            Environment.get?_assignAll_of_not_mem _ hmem]
          apply h.env hnone name hlive
    next =>
      refine ⟨?_, h.assigned, ?_, ?_⟩
      · rw [Execution.close, Execution.close, h.sink]
      · rw [Execution.close, Execution.close, h.sink]
      · intro hfailed
        cases hfailed

/-- Two executions stay parallel under a `statement`: agreement on the names live before it gives
agreement on those live in the `rest`. -/
theorem step {statement : Statement} {rest : Program}
    (h : Parallel (Program.LiveIn (statement :: rest)) first second)
    (hnone : first.failure = none) :
  Parallel rest.LiveIn (first.step statement) (second.step statement)
  := by
  have heffect : statement.effect first.env = statement.effect second.env := by
    apply Statement.effect_congr
    intro name hreads
    apply h.env hnone name (Program.liveIn_cons.mpr (.inl hreads))
  rw [Execution.step_eq_perform, Execution.step_eq_perform, ← heffect]
  apply h.perform hnone
  intro effect hok name hlive
  rw [Statement.names_of_effect hok]
  by_cases hassigns : name ∈ statement.assigns?.toList
  · left
    apply hassigns
  · right
    apply Program.liveIn_cons.mpr (.inr ⟨hlive, hassigns⟩)

/-- Two executions stay parallel over a whole `program`, behind which no name is live. -/
theorem steps {program : Program} (h : Parallel program.LiveIn first second) :
  Parallel (Program.LiveIn []) (first.steps program) (second.steps program)
  := by
  induction program generalizing first second with
  | nil => apply h
  | cons statement rest ih =>
    cases hfailure : first.failure with
    | none =>
      rw [Execution.steps_cons _ _ hfailure, Execution.steps_cons _ _ (h.failure ▸ hfailure)]
      apply ih (h.step hfailure)
    | some cause =>
      rw [Execution.steps_of_failure _ hfailure,
        Execution.steps_of_failure _ (h.failure ▸ hfailure)]
      refine ⟨h.sink, h.assigned, h.failure, ?_⟩
      intro hnone
      rw [hnone] at hfailure
      cases hfailure

end Parallel

namespace Program

/-- In environments that agree on `Program.LiveIn`, a `program` leaves the same sink and the same
failure, for any `sink`.  Afterwards the environments agree on the names in `Program.Rebinds`, which
are the same for both, and in each of them every other name stands for what it stood for before. -/
theorem execute_noninterference {program : Program} {first second : Environment} (sink : Sink)
    (h : AgreeOn program.LiveIn first second) :
  (program.execute first sink).sink = (program.execute second sink).sink
  ∧ (program.execute first sink).failure = (program.execute second sink).failure
  ∧ (∀ name, program.Rebinds first sink name ↔ program.Rebinds second sink name)
  ∧ ∀ name,
    (program.Rebinds first sink name →
      (program.execute first sink).env.get? name = (program.execute second sink).env.get? name)
    ∧ (¬ program.Rebinds first sink name →
      (program.execute first sink).env.get? name = first.get? name
      ∧ (program.execute second sink).env.get? name = second.get? name)
  := by
  have hstart : Parallel program.LiveIn (.start first sink) (.start second sink) :=
    ⟨rfl, rfl, rfl, fun _ => h⟩
  have hend := hstart.steps
  have hassigned : (program.execute first sink).assigned = (program.execute second sink).assigned :=
    hend.assigned
  refine ⟨hend.sink, hend.failure, ?_, ?_⟩
  · intro name
    rw [rebinds_iff, rebinds_iff, hassigned]
  · intro name
    rw [rebinds_iff, env_execute, env_execute, hassigned]
    constructor
    · intro hmem
      apply Environment.agreeOn_assignAll _ _ _ name hmem
    · intro hmem
      use Environment.get?_assignAll_of_not_mem _ hmem, Environment.get?_assignAll_of_not_mem _ hmem

/-- The program reads `a`, and `b` only after it has assigned to it, so `d` does not matter.  It
fails at a division by zero and leaves `d` as it was. -/
theorem execute_noninterference_until_division :
  let program : Program :=
    [.assign "b" (.binary .add (.name "a") (.num 1)), .print (some (.name "b")),
      .assign "c" (.binary .div (.name "b") (.num 0)), .assign "d" (.num 3)]
  let first := Environment.ofList [("a", 1), ("d", 7)]
  let second := Environment.ofList [("a", 1), ("b", 5)]
  AgreeOn program.LiveIn first second
  ∧ (program.execute first (.start none)).sink = (program.execute second (.start none)).sink
  ∧ (program.execute second (.start none)).observation
    = ⟨"2\n", .ofList [("a", 1), ("b", 2)], some .divisionByZero⟩
  ∧ (program.execute first (.start none)).env.get? "b" = some 2
  ∧ (program.execute first (.start none)).env.get? "d" = some 7
  ∧ (program.execute second (.start none)).env.get? "d" = none
  := by
  intro program first second
  have hagree : AgreeOn program.LiveIn first second := by
    intro name hlive
    have hname : name = "a" := by
      simpa [program, liveIn_cons, not_liveIn_nil, Statement.reads, Expr.reads,
        Statement.assigns?] using hlive
    rw [hname]
    decide
  obtain ⟨hsink, -, -, hnames⟩ := execute_noninterference (.start none) hagree
  have hb := (hnames "b").1 (by decide)
  obtain ⟨hfirst, hsecond⟩ := (hnames "d").2 (by decide)
  have hobservation : (program.execute second (.start none)).observation
      = ⟨"2\n", .ofList [("a", 1), ("b", 2)], some .divisionByZero⟩ := by decide
  refine ⟨hagree, hsink, hobservation, ?_, ?_, ?_⟩
  · rw [hb]
    decide
  · rw [hfirst]
    decide
  · rw [hsecond]
    decide

end Program

end IntScript
