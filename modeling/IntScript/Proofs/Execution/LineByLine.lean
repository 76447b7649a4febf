import IntScript.Proofs.Execution.Truncation
import IntScript.Proofs.Source
import IntScript.Run

/-!
# Running line by line

A source can be run as a whole, or line by line, each line being parsed and carried out before the
next one is looked at.  For a source that can be read this makes no difference.  A source that
cannot be read is refused as a whole before anything is done, with the error of a certain line;
line by line, the lines in front of it are carried out, and the same error is met, unless one of
these lines fails before (`run_agrees_with_session`).
-/

namespace IntScript

/-! ### Sessions -/

/-- How far a source has been run line by line: the environment `env` and the `sink` left behind,
and the number and the error of the line at which it `stopped`, if it did. -/
structure Session where
  env : Environment
  sink : Sink
  stopped : Option (Nat × Error)
deriving DecidableEq

namespace Session

/-- A session in which nothing has been done yet, with room for all output. -/
def start : Session :=
  ⟨.empty, .start none, none⟩

/-- Parses `line` and carries out its statement in `session`. -/
def enter (session : Session) (line : Line) : Session :=
  match line.parse with
  | .error error => { session with stopped := some (line.number, error) }
  | .ok statement =>
    let execution := statement.execute session.env session.sink
    ⟨execution.env, execution.sink,
      execution.failure.map fun cause => (line.number, .runtime cause)⟩

/-- Enters lines one after the other, up to the first that fails. -/
def enterAll (session : Session) : List Line → Session
  | [] => session
  | line :: rest =>
    match session.stopped with
    | some _ => session
    | none => (session.enter line).enterAll rest

/-- The session in which the lines of `source` are entered. -/
def ofSource (source : String) : Session :=
  start.enterAll (Line.ofSource source)

/-- The environment that `session` ends with, or the error that it stopped with. -/
def result (session : Session) : Except Error Environment :=
  match session.stopped with
  | none => .ok session.env
  | some (_, error) => .error error

/-! ### One line after another -/

variable {session : Session} {line : Line}

theorem enterAll_cons (line : Line) (rest : List Line) (h : session.stopped = none) :
  session.enterAll (line :: rest) = (session.enter line).enterAll rest
  := by
  rw [enterAll, h]

/-- Once `session` has stopped, nothing is entered. -/
theorem enterAll_of_stopped {stop : Nat × Error} (lines : List Line)
    (h : session.stopped = some stop) :
  session.enterAll lines = session
  := by
  cases lines with
  | nil => rfl
  | cons line rest => rw [enterAll, h]

/-- To enter `as ++ bs` is to enter `as` and then `bs`. -/
theorem enterAll_append (session : Session) (as bs : List Line) :
  session.enterAll (as ++ bs) = (session.enterAll as).enterAll bs
  := by
  induction as generalizing session with
  | nil => rfl
  | cons line rest ih =>
    cases h : session.stopped with
    | none => rw [List.cons_append, enterAll_cons _ _ h, enterAll_cons _ _ h, ih]
    | some stop => rw [enterAll_of_stopped _ h, enterAll_of_stopped _ h, enterAll_of_stopped _ h]

theorem enter_of_ok {statement : Statement} (h : line.parse = .ok statement) :
  session.enter line
    = ⟨(statement.execute session.env session.sink).env,
        (statement.execute session.env session.sink).sink,
        (statement.execute session.env session.sink).failure.map
          fun cause => (line.number, .runtime cause)⟩
  := by
  rw [enter, h]

theorem enter_of_error {error : Error} (h : line.parse = .error error) :
  session.enter line = { session with stopped := some (line.number, error) }
  := by
  rw [enter, h]

/-- If `session` stops at `line`, then it gives the number of `line`. -/
theorem number_of_enter {number : Nat} {error : Error}
    (h : (session.enter line).stopped = some (number, error)) :
  line.number = number
  := by
  unfold enter at h
  split at h
  next =>
    cases h
    rfl
  next =>
    obtain ⟨cause, -, hstop⟩ := Option.map_eq_some_iff.mp h
    cases hstop
    rfl

/-- If a session stops, then it does so at one of the `lines` entered. -/
theorem exists_line_of_stopped {lines : List Line} {number : Nat} {error : Error}
    (hnone : session.stopped = none)
    (h : (session.enterAll lines).stopped = some (number, error)) :
  ∃ line ∈ lines, line.number = number
  := by
  induction lines generalizing session with
  | nil =>
    rw [enterAll, hnone] at h
    cases h
  | cons line rest ih =>
    rw [enterAll_cons _ _ hnone] at h
    cases hstop : (session.enter line).stopped with
    | none =>
      obtain ⟨later, hmem, hnumber⟩ := ih hstop h
      use later, List.mem_cons_of_mem line hmem
    | some stop =>
      rw [enterAll_of_stopped _ hstop] at h
      use line, List.mem_cons_self, number_of_enter h

/-! ### Sessions and executions -/

/-- A `statement` is carried out in the same way on its own and in the course of `execution`: only
the account of the assignments differs. -/
theorem execute_eq_step {execution : Execution} (h : execution.failure = none)
    (statement : Statement) :
  { statement.execute execution.env execution.sink with
      assigned := (execution.step statement).assigned }
    = execution.step statement
  := by
  obtain ⟨env, sink, assigned, failure⟩ := execution
  cases h
  cases statement with
  | print value =>
    cases value with
    | none => rfl
    | some expr =>
      simp only [Statement.execute, Execution.step, Execution.start]
      cases expr.eval env <;> rfl
  | assign name expr =>
    simp only [Statement.execute, Execution.step, Execution.start]
    cases expr.eval env <;> rfl

/-- The `session` has come as far as the `execution`: both are still going on, or both have stopped
with the same runtime error. -/
structure Follows (session : Session) (execution : Execution) : Prop where
  env : session.env = execution.env
  sink : session.sink = execution.sink
  ending : (session.stopped = none ∧ execution.failure = none)
    ∨ ∃ number cause, session.stopped = some (number, .runtime cause)
      ∧ execution.failure = some cause

namespace Follows

variable {execution : Execution}

theorem start :
  Session.start.Follows (.start .empty (.start none))
  := ⟨rfl, rfl, .inl ⟨rfl, rfl⟩⟩

/-- If `session` follows `execution`, then it still does so after a line and its `statement`. -/
theorem enter {statement : Statement} (h : session.Follows execution)
    (hnone : execution.failure = none) (hline : line.parse = .ok statement) :
  (session.enter line).Follows (execution.step statement)
  := by
  rw [enter_of_ok hline, h.env, h.sink, ← execute_eq_step hnone statement]
  constructor
  · rfl
  · rfl
  · simp only
    cases (statement.execute execution.env execution.sink).failure with
    | none =>
      left
      exact ⟨rfl, rfl⟩
    | some cause =>
      right
      use line.number, cause, rfl

/-- If `session` follows `execution` and all the `lines` can be read, then it still does so after
the lines and their statements. -/
theorem enterAll {lines : List Line} {program : Program} (h : session.Follows execution)
    (hlines : lines.mapM Line.parse = .ok program) :
  (session.enterAll lines).Follows (execution.steps program)
  := by
  rw [Except.mapM_eq_ok_iff] at hlines
  induction hlines generalizing session execution with
  | nil => apply h
  | @cons line statement rest program hline _ ih =>
    rcases h.ending with ⟨hgoing, hnone⟩ | ⟨number, cause, hstopped, hfailure⟩
    · rw [enterAll_cons _ _ hgoing, Execution.steps_cons _ _ hnone]
      apply ih (h.enter hnone hline)
    · rw [enterAll_of_stopped _ hstopped, Execution.steps_of_failure _ hfailure]
      apply h

theorem result_eq (h : session.Follows execution) :
  session.result = execution.result.mapError Error.runtime
  := by
  rcases h.ending with ⟨hgoing, hnone⟩ | ⟨number, cause, hstopped, hfailure⟩
  · rw [result, hgoing, Execution.result, hnone, h.env]
    rfl
  · rw [result, hstopped, Execution.result, hfailure]
    rfl

end Follows

end Session

/-! ### Runs and sessions -/

/-- If one of the `lines` cannot be read, then the session stops with its `error`, unless an earlier
line fails. -/
theorem Session.stopped_of_mapM_eq_error {lines : List Line} {error : Error}
    (hascending : lines.Pairwise fun a b => a.number < b.number)
    (h : lines.mapM Line.parse = .error error) :
  ∃ number, error.line? = some number
    ∧ ((start.enterAll lines).stopped = some (number, error)
      ∨ ∃ earlier cause, earlier < number
        ∧ (start.enterAll lines).stopped = some (earlier, .runtime cause))
  := by
  obtain ⟨before, line, after, program, rfl, hbefore, herror⟩ := Except.exists_of_mapM_eq_error h
  use line.number, Line.line?_of_parse herror
  -- Up to the line in question, the session follows the execution of the lines before it.
  have hfollows := Follows.start.enterAll hbefore
  rw [enterAll_append]
  rcases hfollows.ending with ⟨hgoing, -⟩ | ⟨number, cause, hstopped, -⟩
  · left
    rw [enterAll_cons _ _ hgoing, enter_of_error herror, enterAll_of_stopped _ rfl]
  · right
    rw [enterAll_of_stopped _ hstopped]
    obtain ⟨entered, hmem, rfl⟩ := exists_line_of_stopped rfl hstopped
    rw [List.pairwise_append] at hascending
    obtain ⟨-, -, hlater⟩ := hascending
    use entered.number, cause, hlater entered hmem line List.mem_cons_self

/-- If `Program.parse` fails, then `run` prints nothing and has the same error. -/
theorem run_of_parse_error {source : String} {error : Error}
    (h : Program.parse source = .error error) (room : Option Nat) :
  (run source room).output = "" ∧ (run source room).result = .error error
  := by
  rw [Program.parse] at h
  simp only [run, h, and_self]

/-- If `Program.parse` succeeds, then `run` carries the program out in the empty environment. -/
theorem run_of_parse_ok {source : String} {program : Program}
    (h : Program.parse source = .ok program) (room : Option Nat) :
  (run source room).output = (program.execute .empty (.start room)).sink.text
    ∧ (run source room).result
      = (program.execute .empty (.start room)).result.mapError .runtime
  := by
  rw [Program.parse] at h
  simp only [run, h, and_self]

/-- A `source` that can be read prints the same by `run` and line by line in `Session.ofSource`, and
ends with the same environment or the same runtime error.  A source that cannot be read has an error
at a certain line, and `run` does not carry it out; line by line it is stopped by that error, or by
a runtime error at an earlier line. -/
theorem run_agrees_with_session (source : String) :
  (∀ program, Program.parse source = .ok program →
    (run source none).output = (Session.ofSource source).sink.text
    ∧ (run source none).result = (Session.ofSource source).result
    ∧ ∀ error, (run source none).result = .error error → ∃ cause, error = .runtime cause)
  ∧ ∀ error, Program.parse source = .error error →
    (run source none).output = "" ∧ (run source none).result = .error error
    ∧ ∃ number, error.line? = some number
      ∧ ((Session.ofSource source).stopped = some (number, error)
        ∨ ∃ earlier cause, earlier < number
          ∧ (Session.ofSource source).stopped = some (earlier, .runtime cause))
  := by
  constructor
  · intro program hparse
    obtain ⟨houtput, hresult⟩ := run_of_parse_ok hparse none
    rw [Program.parse_eq_mapM] at hparse
    have hfollows := Session.Follows.start.enterAll hparse
    refine ⟨?_, ?_, ?_⟩
    · rw [houtput]
      apply congrArg Sink.text hfollows.sink.symm
    · rw [hresult]
      apply hfollows.result_eq.symm
    · intro error herror
      rw [hresult] at herror
      obtain ⟨cause, -, rfl⟩ := Except.mapError_eq_error_iff.mp herror
      use cause
  · intro error hparse
    obtain ⟨houtput, hresult⟩ := run_of_parse_error hparse none
    use houtput, hresult
    rw [Program.parse_eq_mapM] at hparse
    apply Session.stopped_of_mapM_eq_error (Line.ascending_ofSource source) hparse

/-- A division by zero at the second line: `source` can be read, and in `broken` a line follows that
cannot be read. -/
theorem run_agrees_with_session_division_by_zero :
  let source := "x = 7\nprint(x / 0)"
  let broken := source ++ "\nprint("
  (∃ program, Program.parse source = .ok program
    ∧ (run source none).output = (Session.ofSource source).sink.text
    ∧ (run source none).result = (Session.ofSource source).result
    ∧ (Session.ofSource source).stopped = some (2, .runtime .divisionByZero))
  ∧ (Program.parse broken = .error (.parse 3 (.unclosedParen none))
    ∧ (run broken none).output = ""
    ∧ ∃ earlier cause, earlier < 3
      ∧ (Session.ofSource broken).stopped = some (earlier, .runtime cause))
  := by
  intro source broken
  let program : Program :=
    [.assign "x" (.num 7), .print (some (.binary .div (.name "x") (.num 0)))]
  have hparse : Program.parse source = .ok program := by decide
  have hbroken : Program.parse broken = .error (.parse 3 (.unclosedParen none)) := by decide
  have hstopped : (Session.ofSource broken).stopped ≠ some (3, .parse 3 (.unclosedParen none)) := by
    decide
  obtain ⟨hreads, -⟩ := run_agrees_with_session source
  obtain ⟨-, hfails⟩ := run_agrees_with_session broken
  constructor
  · obtain ⟨houtput, hresult, -⟩ := hreads program hparse
    use program, hparse, houtput, hresult
    decide
  · obtain ⟨houtput, -, number, hnumber, hsame | hearlier⟩ := hfails _ hbroken
    · cases hnumber
      cases hstopped hsame
    · cases hnumber
      exact ⟨hbroken, houtput, hearlier⟩

end IntScript
