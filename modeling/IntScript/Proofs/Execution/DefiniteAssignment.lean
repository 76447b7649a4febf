import IntScript.Proofs.Execution.LineByLine
import IntScript.Proofs.Execution.Progress

/-!
# Definite assignment

Which names a program reads before it assigns to them can be seen from its text, and it decides on
unknown names: only a live name that is not bound can be reported as unknown, and a program that is
carried out to its end finds all its live names bound.  Afterwards the names bound before are still
bound, and besides them the names that the program assigns to, and no others
(`definite_assignment`).
-/

namespace IntScript

/-- If all the statements of `program` evaluate, then its live names are bound in `env`. -/
theorem Completes.isSome_of_liveIn {env : Environment} {program : Program} {effect : Effect}
    {name : String} (h : Completes env program effect) (hlive : program.LiveIn name) :
  (env.get? name).isSome
  := by
  induction h with
  | nil => cases Program.not_liveIn_nil name hlive
  | cons head _ ih =>
    rcases Program.liveIn_cons.mp hlive with hreads | ⟨hlater, hassigns⟩
    · apply Statement.isSome_of_effect head name hreads
    · rw [← Statement.names_of_effect head] at hassigns
      rcases Environment.isSome_get?_assignAll.mp (ih hlater) with hbound | hmem
      · apply hbound
      · cases hassigns hmem

namespace Program

variable {program : Program} {env : Environment} {sink : Sink} {name : String}

/-- If `name` is reported as unknown, then it is live in `program` and not bound in `env`. -/
theorem liveIn_of_unknown
    (h : (program.execute env sink).failure = some (.unknownVariable name)) :
  program.LiveIn name ∧ env.get? name = none
  := by
  obtain ⟨progress⟩ := Execution.exists_progress (.start env sink) program rfl
  obtain ⟨done, rest, effect, hprogram, hcompletes, -, hhalts⟩ := progress
  -- The name is unknown to the first statement that is not done.
  obtain ⟨statement, after, rfl, hreason⟩ := hhalts.exists_of_failure rfl h
  have hunknown := hreason.resolve_left (by simp)
  obtain ⟨hreads, hnone⟩ := Statement.get?_of_effect_unknown hunknown
  have hunbound : ¬ ((env.assignAll effect.bindings).get? name).isSome :=
    Option.not_isSome_iff_eq_none.mpr hnone
  rw [Environment.isSome_get?_assignAll, hcompletes.names, not_or] at hunbound
  constructor
  · use done, statement, after, hprogram.symm, hreads, hunbound.2
  · apply Option.not_isSome_iff_eq_none.mp hunbound.1

/-- If `program` does not fail, then its live names are bound in `env`. -/
theorem isSome_of_liveIn (h : (program.execute env sink).failure = none)
    (hlive : program.LiveIn name) :
  (env.get? name).isSome
  := by
  obtain ⟨progress⟩ := Execution.exists_progress (.start env sink) program rfl
  have hcompletes := progress.completes
  rw [progress.done_eq h] at hcompletes
  apply hcompletes.isSome_of_liveIn hlive

/-- If `program` does not fail, then the names bound in the end are those bound in `env` and those
that `program` assigns to. -/
theorem isSome_get?_execute (h : (program.execute env sink).failure = none) :
  ((program.execute env sink).env.get? name).isSome
    ↔ (env.get? name).isSome ∨ name ∈ program.assigns
  := by
  rw [env_execute, Environment.isSome_get?_assignAll, names_execute h]

end Program

/-! ### Runs -/

theorem Execution.result_eq_ok_iff {execution : Execution} {env : Environment} :
  execution.result = .ok env ↔ execution.failure = none ∧ execution.env = env
  := by
  rw [result]
  split
  next h => simp [h]
  next h => simp [h]

theorem Execution.result_eq_error_iff {execution : Execution} {cause : RuntimeError} :
  execution.result = .error cause ↔ execution.failure = some cause
  := by
  rw [result]
  split
  next h => simp [h]
  next h => simp [h]

/-- If `run` fails with a runtime error, then the program of `source` does. -/
theorem exists_program_of_run_runtime {source : String} {room : Option Nat} {cause : RuntimeError}
    (h : (run source room).result = .error (.runtime cause)) :
  ∃ program, Program.parse source = .ok program
    ∧ (program.execute .empty (.start room)).failure = some cause
  := by
  cases hparse : Program.parse source with
  | error error =>
    obtain ⟨-, hresult⟩ := run_of_parse_error hparse room
    rw [hresult] at h
    cases h
    obtain ⟨line, -, hline⟩ := Program.exists_line_of_parse hparse
    cases hline
  | ok program =>
    obtain ⟨-, hresult⟩ := run_of_parse_ok hparse room
    rw [hresult] at h
    obtain ⟨cause, hfailure, hcause⟩ := Except.mapError_eq_error_iff.mp h
    cases hcause
    use program, rfl, Execution.result_eq_error_iff.mp hfailure

/-- If `run` succeeds, then the program of `source` does, and the environment is the one it ends
with. -/
theorem exists_program_of_run_ok {source : String} {room : Option Nat} {env : Environment}
    (h : (run source room).result = .ok env) :
  ∃ program, Program.parse source = .ok program
    ∧ (program.execute .empty (.start room)).failure = none
    ∧ (program.execute .empty (.start room)).env = env
  := by
  cases hparse : Program.parse source with
  | error error =>
    obtain ⟨-, hresult⟩ := run_of_parse_error hparse room
    rw [hresult] at h
    cases h
  | ok program =>
    obtain ⟨-, hresult⟩ := run_of_parse_ok hparse room
    rw [hresult, Except.mapError_eq_ok_iff] at h
    use program, rfl
    apply Execution.result_eq_ok_iff.mp h

/-- Whatever `env` and `sink` are, only a live name that is not bound is reported by
`RuntimeError.unknownVariable`, and a program that does not fail finds its live names bound and
leaves those names bound that were so before or that it assigns to.  So a source that is run fails
at a name that is live in its program, or there is no such name and the names in `Program.assigns`
are bound in the end. -/
theorem definite_assignment :
  (∀ (program : Program) (env : Environment) (sink : Sink),
    (∀ name, (program.execute env sink).failure = some (.unknownVariable name) →
      program.LiveIn name ∧ env.get? name = none)
    ∧ ((program.execute env sink).failure = none →
      (∀ name, program.LiveIn name → (env.get? name).isSome)
      ∧ ∀ name, ((program.execute env sink).env.get? name).isSome
        ↔ (env.get? name).isSome ∨ name ∈ program.assigns))
  ∧ ∀ (source : String) (room : Option Nat),
    (∀ name, (run source room).result = .error (.runtime (.unknownVariable name)) →
      ∃ program, Program.parse source = .ok program ∧ program.LiveIn name)
    ∧ ∀ env, (run source room).result = .ok env →
      ∃ program, Program.parse source = .ok program
        ∧ (∀ name, ¬ program.LiveIn name)
        ∧ ∀ name, (env.get? name).isSome ↔ name ∈ program.assigns
  := by
  constructor
  · intro program env sink
    constructor
    · intro name hunknown
      apply Program.liveIn_of_unknown hunknown
    · intro hnone
      constructor
      · intro name hlive
        apply Program.isSome_of_liveIn hnone hlive
      · intro name
        apply Program.isSome_get?_execute hnone
  · intro source room
    constructor
    · intro name hunknown
      obtain ⟨program, hparse, hfailure⟩ := exists_program_of_run_runtime hunknown
      use program, hparse
      apply (Program.liveIn_of_unknown hfailure).1
    · intro env hok
      obtain ⟨program, hparse, hnone, rfl⟩ := exists_program_of_run_ok hok
      refine ⟨program, hparse, ?_, ?_⟩
      · intro name hlive
        have hbound := Program.isSome_of_liveIn hnone hlive
        rw [Environment.get?_empty] at hbound
        cases hbound
      · intro name
        rw [Program.isSome_get?_execute hnone, Environment.get?_empty]
        simp

/-- With `y` bound, `x = x + y` fails at the live name `x`; with both bound it succeeds, and `z` is
bound besides.  As sources, the one fails at `x`, and the other, with `x` assigned to in front,
succeeds. -/
theorem definite_assignment_self_read :
  let program : Program :=
    [.assign "x" (.binary .add (.name "x") (.name "y")), .assign "z" (.name "x")]
  let partly := Environment.ofList [("y", 2)]
  let fully := Environment.ofList [("x", 1), ("y", 2)]
  ((program.execute partly (.start none)).failure = some (.unknownVariable "x")
    ∧ program.LiveIn "x" ∧ partly.get? "x" = none)
  ∧ ((program.execute fully (.start none)).failure = none
    ∧ ((program.execute fully (.start none)).env.get? "z").isSome
    ∧ ¬ ((program.execute fully (.start none)).env.get? "w").isSome)
  ∧ ((run "x = x + 1" none).result = .error (.runtime (.unknownVariable "x"))
    ∧ ∃ program, Program.parse "x = x + 1" = .ok program ∧ program.LiveIn "x")
  ∧ ((run "x = 1\nx = x + 1" none).result = .ok (.ofList [("x", 2)])
    ∧ ∃ program, Program.parse "x = 1\nx = x + 1" = .ok program ∧ ∀ name, ¬ program.LiveIn name)
  := by
  intro program partly fully
  obtain ⟨hprograms, hsources⟩ := definite_assignment
  have hunknown : (program.execute partly (.start none)).failure = some (.unknownVariable "x") := by
    decide
  have hnone : (program.execute fully (.start none)).failure = none := by decide
  have hself : (run "x = x + 1" none).result = .error (.runtime (.unknownVariable "x")) := by
    decide
  have hafter : (run "x = 1\nx = x + 1" none).result = .ok (.ofList [("x", 2)]) := by decide
  obtain ⟨-, hnames⟩ := (hprograms program fully (.start none)).2 hnone
  obtain ⟨after, hparse, hlive, -⟩ := (hsources _ none).2 _ hafter
  refine ⟨⟨hunknown, ?_⟩, ⟨hnone, ?_, ?_⟩, ⟨hself, ?_⟩, ⟨hafter, after, hparse, hlive⟩⟩
  · apply (hprograms program partly (.start none)).1 "x" hunknown
  · rw [hnames]
    decide
  · rw [hnames]
    decide
  · apply (hsources _ none).1 "x" hself

end IntScript
