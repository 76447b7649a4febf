import IntScript.Proofs.Execution.Ideal

/-!
# Truncation

Carrying out a program with a sink that has enough room is its ideal run.  With less room it is
the ideal run up to the first line that does not fit: the sink stores the bytes for which there
is room, the execution fails, and the environment stays as it was before that line.
-/

namespace IntScript

/-! ### Statements -/

namespace Execution

variable {execution : Execution} {statement : Statement} {effect : Effect}

/-- The `execution` after an `effect`, with its text written and its bindings assigned. -/
def advance (execution : Execution) (effect : Effect) : Execution :=
  { execution with
    env := execution.env.assignAll effect.bindings
    sink := execution.sink.write effect.text
    assigned := execution.assigned ++ effect.bindings }

@[simp]
theorem advance_none (execution : Execution) :
  execution.advance .none = execution
  := by
  rw [advance, Effect.none, Sink.write_empty, List.append_nil]
  rfl

/-- If there is room for the text of `first`, then to advance by `first ++ later` is to advance by
`first` and then by `later`. -/
theorem advance_append {first : Effect} (h : execution.sink.accepts first.text)
    (later : Effect) :
  execution.advance (first ++ later) = (execution.advance first).advance later
  := by
  simp only [advance, Effect.text_append, Effect.bindings_append,
    Environment.assignAll_append, Sink.write_append_of_accepts h, List.append_assoc]

theorem print_of_accepts {text : String} (h : execution.sink.accepts text) :
  execution.print text = execution.advance ⟨text, []⟩
  := by
  rw [print, advance, if_pos h, List.append_nil]
  rfl

/-- The `execution` after a `text` for which there was no room. -/
def close (execution : Execution) (text : String) : Execution :=
  { execution with
    sink := execution.sink.write text
    failure := some (.output execution.sink.reason) }

theorem print_of_refuses {text : String} (h : ¬ execution.sink.accepts text) :
  execution.print text = execution.close text
  := by
  rw [print, close, if_neg h]

/-- Assigning `value` to `name` is an effect with the text `""`. -/
theorem assign_eq_advance (execution : Execution) (name : String) (value : Int) :
  execution.assign name value = execution.advance ⟨"", [(name, value)]⟩
  := by
  rw [assign, advance, Sink.write_empty]
  rfl

/-- If `statement` evaluates to `effect` and there is room for its text, then the `execution`
advances by it. -/
theorem step_of_accepts (heffect : statement.effect execution.env = .ok effect)
    (hroom : execution.sink.accepts effect.text) :
  execution.step statement = execution.advance effect
  := by
  cases statement with
  | print value =>
    cases value with
    | none =>
      cases heffect
      apply print_of_accepts hroom
    | some expr =>
      obtain ⟨value, hvalue, rfl⟩ := Except.map_eq_ok_iff.mp heffect
      rw [step, hvalue]
      apply print_of_accepts hroom
  | assign name expr =>
    obtain ⟨value, hvalue, rfl⟩ := Except.map_eq_ok_iff.mp heffect
    rw [step, hvalue]
    apply assign_eq_advance

/-- If a print evaluates to `effect` but there is no room for its text, then the `execution` is
closed. -/
theorem step_of_refuses {value : Option Expr}
    (heffect : (Statement.print value).effect execution.env = .ok effect)
    (hroom : ¬ execution.sink.accepts effect.text) :
  execution.step (.print value) = execution.close effect.text
  := by
  cases value with
  | none =>
    cases heffect
    apply print_of_refuses hroom
  | some expr =>
    obtain ⟨value, hvalue, rfl⟩ := Except.map_eq_ok_iff.mp heffect
    rw [step, hvalue]
    apply print_of_refuses hroom

/-- If `statement` does not evaluate, then the `execution` fails and is otherwise left alone. -/
theorem step_of_error {cause : RuntimeError}
    (heffect : statement.effect execution.env = .error cause) :
  execution.step statement = execution.fail cause
  := by
  cases statement with
  | print value =>
    cases value with
    | none => cases heffect
    | some expr => rw [step, Except.map_eq_error_iff.mp heffect]
  | assign name expr => rw [step, Except.map_eq_error_iff.mp heffect]

/-! ### Programs -/

theorem steps_cons (statement : Statement) (rest : Program) (h : execution.failure = none) :
  execution.steps (statement :: rest) = (execution.step statement).steps rest
  := by
  rw [steps, h]

/-- After a failure, `program` is not carried out. -/
theorem steps_of_failure {cause : RuntimeError} (program : Program)
    (h : execution.failure = some cause) :
  execution.steps program = execution
  := by
  cases program with
  | nil => rfl
  | cons statement rest => rw [steps, h]

/-- If `program` completes with `effect` and there is room for its text, then the `execution`
advances by it. -/
theorem steps_of_completes {program : Program}
    (hcompletes : Completes execution.env program effect)
    (hroom : execution.sink.accepts effect.text) (hnone : execution.failure = none) :
  execution.steps program = execution.advance effect
  := by
  -- The induction changes the environment, which therefore must not be tied to the execution.
  generalize henv : execution.env = env at hcompletes
  induction hcompletes generalizing execution with
  | nil => rw [steps, advance_none]
  | cons head tail ih =>
    subst henv
    rw [Effect.text_append, Sink.accepts_append] at hroom
    obtain ⟨hfirst, hlater⟩ := hroom
    rw [steps_cons _ _ hnone, step_of_accepts head hfirst, advance_append hfirst]
    apply ih
    · apply hlater
    · apply hnone
    · rfl

/-- If `program` stops at once with `failure`, then this is the failure of the `execution`. -/
theorem steps_of_stops {program : Program} {failure : Option RuntimeError}
    (hstops : Stops execution.env program failure) (hnone : execution.failure = none) :
  execution.steps program = { execution with failure := failure }
  := by
  cases hstops with
  | finished => rw [steps, ← hnone]
  | failed head =>
    rw [steps_cons _ _ hnone, step_of_error head]
    apply steps_of_failure
    rfl

end Execution

/-! ### Lines that do not fit -/

/-- The print of `program` whose line crosses the `position` in `output`, counted in bytes: what is
printed `earlier` ends at the position or before it, and with the `line` it goes beyond. -/
structure Crossing (program : Program) (env : Environment) (output : String)
    (position : Nat) where
  before : Program
  value : Option Expr
  after : Program
  earlier : Effect
  line : Effect
  later : String
  program_eq : program = before ++ .print value :: after
  output_eq : output = earlier.text ++ (line.text ++ later)
  completes : Completes env before earlier
  evaluates : (Statement.print value).effect (env.assignAll earlier.bindings) = .ok line
  starts : earlier.text.utf8ByteSize ≤ position
  ends : position < (earlier.text ++ line.text).utf8ByteSize

namespace Crossing

variable {env : Environment} {rest : Program} {output : String} {position : Nat}

/-- The crossing at the first statement, if its `line` goes beyond the position. -/
def head {value : Option Expr} {line : Effect} {later : String}
    (h : (Statement.print value).effect env = .ok line)
    (hends : position < line.text.utf8ByteSize) :
    Crossing (.print value :: rest) env (line.text ++ later) position where
  before := []
  value := value
  after := rest
  earlier := .none
  line := line
  later := later
  program_eq := rfl
  output_eq := by rw [Effect.none, String.empty_append]
  completes := .nil
  evaluates := h
  starts := Nat.zero_le position
  ends := by rwa [Effect.none, String.empty_append]

/-- The crossing in `rest`, if the effect `first` of the first statement ends at the position or
before it. -/
def tail {statement : Statement} {first : Effect} (h : statement.effect env = .ok first)
    (hfirst : first.text.utf8ByteSize ≤ position)
    (crossing : Crossing rest (env.assignAll first.bindings) output
      (position - first.text.utf8ByteSize)) :
    Crossing (statement :: rest) env (first.text ++ output) position where
  before := statement :: crossing.before
  value := crossing.value
  after := crossing.after
  earlier := first ++ crossing.earlier
  line := crossing.line
  later := crossing.later
  program_eq := by rw [List.cons_append, ← crossing.program_eq]
  output_eq := by
    rw [Effect.text_append, String.append_assoc, ← crossing.output_eq]
  completes := .cons h crossing.completes
  evaluates := by
    rw [Effect.bindings_append, Environment.assignAll_append]
    apply crossing.evaluates
  starts := by
    have hstarts := crossing.starts
    rw [Effect.text_append, String.utf8ByteSize_append]
    omega
  ends := by
    have hends := crossing.ends
    rw [Effect.text_append, String.append_assoc, String.utf8ByteSize_append]
    omega

variable {program : Program} {limit : Nat}

/-- A sink with room for `limit` bytes accepts what is printed `earlier`. -/
theorem accepts_earlier (crossing : Crossing program env output limit) (reason : String) :
  (Sink.fresh (some limit) reason).accepts crossing.earlier.text
  := by
  simpa [Sink.accepts, Sink.fresh] using crossing.starts

/-- A sink with room for `limit` bytes refuses the `line` behind what is printed `earlier`. -/
theorem refuses_line (crossing : Crossing program env output limit) (reason : String) :
  ¬ (Sink.fresh (some limit) reason).accepts (crossing.earlier.text ++ crossing.line.text)
  := by
  simpa [Sink.accepts, Sink.fresh] using crossing.ends

/-- A sink with room for `limit` bytes stores of `earlier` and `line` what it stores of `output`. -/
theorem write_eq (crossing : Crossing program env output limit) (reason : String) :
  ((Sink.fresh (some limit) reason).write crossing.earlier.text).write crossing.line.text
    = (Sink.fresh (some limit) reason).write output
  := by
  rw [← Sink.write_append_of_accepts (crossing.accepts_earlier reason),
    ← Sink.write_append_of_refuses (crossing.refuses_line reason) crossing.later,
    String.append_assoc, ← crossing.output_eq]

end Crossing

/-- Every `position` within the text of a complete program is crossed by some line. -/
theorem Completes.exists_crossing {env : Environment} {program : Program} {effect : Effect}
    (h : Completes env program effect) {position : Nat}
    (hposition : position < effect.text.utf8ByteSize) :
  Nonempty (Crossing program env effect.text position)
  := by
  induction h generalizing position with
  | nil => cases hposition
  | @cons env statement rest first later hhead htail ih =>
    by_cases hfirst : first.text.utf8ByteSize ≤ position
    · have hlater : position - first.text.utf8ByteSize < later.text.utf8ByteSize := by
        rw [Effect.text_append, String.utf8ByteSize_append] at hposition
        omega
      obtain ⟨crossing⟩ := ih hlater
      exact ⟨crossing.tail hhead hfirst⟩
    · cases statement with
      | print value => exact ⟨.head hhead (Nat.lt_of_not_le hfirst)⟩
      | assign name expr =>
        obtain ⟨value, -, rfl⟩ := Except.map_eq_ok_iff.mp hhead
        cases hfirst (Nat.zero_le position)

/-- If the sink has room for `limit` bytes, then `program` is carried out up to the line that
crosses the limit, where the `execution` is closed. -/
theorem Execution.steps_of_crossing (execution : Execution) {program : Program} {output : String}
    {limit : Nat} {reason : String} (crossing : Crossing program execution.env output limit)
    (rest : Program) (hsink : execution.sink = .fresh (some limit) reason)
    (hnone : execution.failure = none) :
  execution.steps (program ++ rest)
    = (execution.advance crossing.earlier).close crossing.line.text
  := by
  have hearlier : execution.sink.accepts crossing.earlier.text := by
    rw [hsink]
    apply crossing.accepts_earlier
  have hline : ¬ (execution.advance crossing.earlier).sink.accepts crossing.line.text := by
    intro h
    apply crossing.refuses_line reason
    rw [← hsink, Sink.accepts_append]
    use hearlier, h
  have hrunning : (execution.advance crossing.earlier).failure = none := hnone
  calc execution.steps (program ++ rest)
    _ = execution.steps (crossing.before ++ .print crossing.value :: (crossing.after ++ rest)) := by
      rw [← List.cons_append, ← List.append_assoc, ← crossing.program_eq]
    _ = (execution.advance crossing.earlier).steps
          (.print crossing.value :: (crossing.after ++ rest)) := by
      rw [steps_append, steps_of_completes crossing.completes hearlier hnone]
    _ = ((execution.advance crossing.earlier).close crossing.line.text).steps
          (crossing.after ++ rest) := by
      rw [steps_cons _ _ hrunning, step_of_refuses crossing.evaluates hline]
    _ = (execution.advance crossing.earlier).close crossing.line.text := by
      apply steps_of_failure
      rfl

/-! ### Ideal runs -/

namespace IdealRun

variable {program : Program} {env : Environment} (ideal : IdealRun program env)

/-- If there is room for all that the ideal run prints, then `program` is carried out as in it. -/
theorem execute_of_accepts {sink : Sink} (hroom : sink.accepts ideal.effect.text) :
  program.execute env sink
    = { (Execution.start env sink).advance ideal.effect with failure := ideal.failure }
  := by
  have hdone : (Execution.start env sink).steps ideal.done
      = (Execution.start env sink).advance ideal.effect := by
    apply Execution.steps_of_completes ideal.completes hroom
    rfl
  calc (Execution.start env sink).steps program
    _ = (Execution.start env sink).steps (ideal.done ++ ideal.rest) := by
      rw [ideal.done_append_rest]
    _ = ((Execution.start env sink).advance ideal.effect).steps ideal.rest := by
      rw [Execution.steps_append, hdone]
    _ = { (Execution.start env sink).advance ideal.effect with failure := ideal.failure } := by
      apply Execution.steps_of_stops ideal.stops
      rfl

/-- If there is room for all that the ideal run prints, then its observation is that of the
execution. -/
theorem observation_execute {room : Option Nat} {reason : String}
    (hroom : (Sink.fresh room reason).accepts ideal.effect.text) :
  (program.execute env (.fresh room reason)).observation = ideal.observation
  := by
  have htext : ((Sink.fresh room reason).write ideal.effect.text).text = ideal.effect.text := by
    rw [Sink.text_write_of_accepts hroom]
    apply String.empty_append
  rw [ideal.execute_of_accepts hroom, Execution.observation, observation, ← htext]
  rfl

/-- If a `crossing` of the ideal run is at `limit`, then `program` is carried out up to its line:
the environment is the one in which that line was to be printed, and the failure is
`RuntimeError.output`. -/
theorem execute_of_crossing {limit : Nat} (reason : String)
    (crossing : Crossing ideal.done env ideal.effect.text limit) :
  program.execute env (.fresh (some limit) reason)
    = ⟨env.assignAll crossing.earlier.bindings,
        (Sink.fresh (some limit) reason).write ideal.effect.text, crossing.earlier.bindings,
        some (.output reason)⟩
  := by
  let start := Execution.start env (.fresh (some limit) reason)
  have hreason : (start.advance crossing.earlier).sink.reason = reason := Sink.reason_write _ _
  calc start.steps program
    _ = start.steps (ideal.done ++ ideal.rest) := by
      rw [ideal.done_append_rest]
    _ = (start.advance crossing.earlier).close crossing.line.text := by
      apply Execution.steps_of_crossing start crossing
      · rfl
      · rfl
    _ = _ := by
      rw [← crossing.write_eq, Execution.close, hreason]
      rfl

end IdealRun

/-- What is observed of a program is its ideal run in `Program.ideal`, cut off where the room for
its output ends.  Without a limit, or with a `limit` that is not exceeded, nothing is cut off.  With
a `limit` that is exceeded, the bytes up to it are stored, the failure is `RuntimeError.output` with
the `reason` of the sink, and the environment is the one in which the line that crosses the limit
was to be printed. -/
theorem Program.execute_eq_truncated_ideal (program : Program) (env : Environment)
    (reason : String) :
  (program.execute env (.fresh none reason)).observation = (program.ideal env).observation
  ∧ ∀ limit : Nat,
    ((program.ideal env).effect.text.utf8ByteSize ≤ limit →
      (program.execute env (.fresh (some limit) reason)).observation
        = (program.ideal env).observation)
    ∧ (limit < (program.ideal env).effect.text.utf8ByteSize →
      (program.execute env (.fresh (some limit) reason)).sink.text.toByteArray
          = (program.ideal env).effect.text.toByteArray.extract 0 limit
      ∧ (program.execute env (.fresh (some limit) reason)).failure = some (.output reason)
      ∧ Nonempty (Crossing (program.ideal env).done env (program.ideal env).effect.text limit)
      ∧ ∀ crossing : Crossing (program.ideal env).done env (program.ideal env).effect.text limit,
        (program.execute env (.fresh (some limit) reason)).env
          = env.assignAll crossing.earlier.bindings)
  := by
  constructor
  · apply IdealRun.observation_execute
    rfl
  intro limit
  constructor
  · intro h
    apply IdealRun.observation_execute
    simpa [Sink.accepts, Sink.fresh] using h
  · intro h
    have hascii := (program.ideal env).completes.isAscii
    obtain ⟨crossing⟩ := (program.ideal env).completes.exists_crossing h
    refine ⟨?_, ?_, ⟨crossing⟩, ?_⟩
    · rw [IdealRun.execute_of_crossing _ reason crossing]
      apply Sink.toByteArray_write_fresh hascii
    · rw [IdealRun.execute_of_crossing _ reason crossing]
    · intro crossing
      rw [IdealRun.execute_of_crossing _ reason crossing]

/-- The lines `7` and `123` are followed by a division by zero: six bytes hold both, and four bytes
end between the digits of the second. -/
theorem Program.execute_eq_truncated_ideal_between_digits :
  let program : Program :=
    [.print (some (.num 7)), .assign "x" (.num 123), .print (some (.name "x")),
      .assign "x" (.binary .div (.num 1) (.num 0)), .print none]
  ((program.ideal .empty).effect.text.utf8ByteSize ≤ 6
    ∧ (program.execute .empty (.fresh (some 6) "closed")).observation
      = ⟨"7\n123\n", .ofList [("x", 123)], some .divisionByZero⟩)
  ∧ (4 < (program.ideal .empty).effect.text.utf8ByteSize
    ∧ (program.execute .empty (.fresh (some 4) "closed")).sink.text.toByteArray
      = "7\n12".toByteArray
    ∧ (program.execute .empty (.fresh (some 4) "closed")).failure = some (.output "closed")
    ∧ Nonempty (Crossing (program.ideal .empty).done .empty "7\n123\n" 4)
    ∧ ∀ crossing : Crossing (program.ideal .empty).done .empty "7\n123\n" 4,
      (program.execute .empty (.fresh (some 4) "closed")).env
        = Environment.empty.assignAll crossing.earlier.bindings)
  := by
  intro program
  have hoverfull : 4 < (program.ideal .empty).effect.text.utf8ByteSize := by decide
  obtain ⟨-, hlimit⟩ := Program.execute_eq_truncated_ideal program .empty "closed"
  obtain ⟨hbytes, hfailure, hcrossing⟩ := (hlimit 4).2 hoverfull
  have htext : (program.ideal .empty).effect.text = "7\n123\n" := by decide
  rw [htext] at hbytes hcrossing
  constructor
  · use by decide
    rw [(hlimit 6).1 (by decide)]
    decide
  · use hoverfull
    rw [hbytes]
    exact ⟨by decide, hfailure, hcrossing⟩

end IntScript
