import IntScript.Proofs.Log.Logger

/-!
# The two output streams

In answer to its command line the program calls the library: it runs a script, scans the lines of a
script, or reads a script.  `Mode.call` is this call, and `Mode.emission` is what the program
reports around it.

The answer does no more than to pass on what comes of the call (`Answer.ofScript_refines_call`).
The output and the exit code depend on the call alone, and not on which events are selected for the
log.  The error stream is made of the selected events and of the message of the error, one line for
each.
-/

namespace IntScript

/-! ### Calls of the library -/

namespace Mode

/-- Scans lines by `Line.scan`, up to the first with a fault. -/
def scanLines : List Line → Logged Error Unit
  | [] => return ()
  | line :: rest => do
    let _ ← line.scan
    scanLines rest

/-- The call of the library that a mode stands for, with the value left out: `IntScript.run` without
a limit, `scanLines`, or `Program.parse`. -/
def call (script : String) : Mode → Logged Error Unit
  | run => ⟨(IntScript.run script none).events, (IntScript.run script none).result.map fun _ => ()⟩
  | tokens => scanLines (Line.ofSource script)
  | tree => ⟨(Program.read script).events, (Program.parse script).map fun _ => ()⟩

/-- What is reported after a call: what `finished` says about its value, or `Event.failed`. -/
def closing {α : Type} (finished : α → List Event) : Except Error α → List Event
  | .ok value => finished value
  | .error error => [.failed error]

/-- All that is reported, in order.  What the `call` reports is followed by its `closing`; around a
run, the program also reports its beginning and its end. -/
def emission (script : String) : Mode → List Event
  | run =>
    .running script.utf8ByteSize :: (IntScript.run script none).events
      ++ closing (fun env => [.finished env.size]) (IntScript.run script none).result
  | mode => (mode.call script).events ++ closing (fun _ => []) (mode.call script).result

end Mode

namespace Outcome

theorem ofTokenLines_eq_scanLines (lines : List Line) :
  (ofTokenLines lines).events = (Mode.scanLines lines).events
    ∧ (ofTokenLines lines).result = (Mode.scanLines lines).result
  := by
  induction lines with
  | nil => exact ⟨rfl, rfl⟩
  | cons line rest ih =>
    rw [ofTokenLines, Mode.scanLines, Logged.result_bind]
    cases hscan : line.scan.result with
    | error error =>
      rw [Logged.events_bind_of_error hscan]
      exact ⟨rfl, rfl⟩
    | ok tokens =>
      rw [Logged.events_bind_of_ok hscan, ← ih.1, ← ih.2]
      exact ⟨rfl, rfl⟩

theorem output_ofTree_of_ok {script : String} {program : Program}
    (h : Program.parse script = .ok program) :
  (ofTree script).output = program.text
  := by
  rw [Program.parse] at h
  simp only [ofTree, h]

theorem output_ofTree_of_error {script : String} {error : Error}
    (h : Program.parse script = .error error) :
  (ofTree script).output = ""
  := by
  rw [Program.parse] at h
  simp only [ofTree, h]

/-- The result of `Outcome.ofScript mode script` is the one of `mode.call script`. -/
theorem result_ofScript (mode : Mode) (script : String) :
  (ofScript mode script).result = (mode.call script).result
  := by
  cases mode with
  | run => rfl
  | tokens => apply (ofTokenLines_eq_scanLines _).2
  | tree =>
    rw [ofScript, ofTree, Mode.call, Program.parse]
    cases (Program.read script).result <;> rfl

/-- The events of `Outcome.ofScript mode script` are those of `mode.emission script`, but for
`Event.failed` at the end. -/
theorem emission_eq (mode : Mode) (script : String) :
  mode.emission script
    = (ofScript mode script).events
      ++ Mode.closing (fun _ => []) (ofScript mode script).result
  := by
  rw [result_ofScript]
  cases mode with
  | run =>
    rw [Mode.emission, ofScript, ofRun, Mode.call]
    cases (run script none).result with
    | ok env => simp [Mode.closing, Except.map]
    | error error => simp [Mode.closing, Except.map]
  | tokens =>
    have hevents := (ofTokenLines_eq_scanLines (Line.ofSource script)).1
    rw [Mode.emission, ofScript, ofTokens, hevents, Mode.call]
    intro hrun
    cases hrun
  | tree =>
    have hevents : (ofTree script).events = (Program.read script).events := by
      rw [ofTree]
      cases (Program.read script).result <;> rfl
    rw [Mode.emission, ofScript, hevents, Mode.call]
    intro hrun
    cases hrun

end Outcome

/-! ### Lines of the error stream -/

namespace Mode

variable {mode : Mode} {script : String}

theorem legible_of_mem_scanLines {lines : List Line} {event : Event}
    (h : event ∈ (scanLines lines).events) :
  event.Legible
  := by
  induction lines with
  | nil => cases h
  | cons line rest ih =>
    have htoken (hmem : event ∈ line.scan.events) : event.Legible := by
      obtain ⟨lexeme, -, rfl⟩ := List.mem_map.mp hmem
      trivial
    rw [scanLines] at h
    cases hscan : line.scan.result with
    | error error =>
      rw [Logged.events_bind_of_error hscan] at h
      apply htoken h
    | ok tokens =>
      rw [Logged.events_bind_of_ok hscan] at h
      rcases List.mem_append.mp h with hmem | hrest
      · apply htoken hmem
      · apply ih hrest

theorem legible_of_mem_call {event : Event} (h : event ∈ (mode.call script).events) :
  event.Legible
  := by
  cases mode with
  | run => apply legible_of_mem_run h
  | tokens => apply legible_of_mem_scanLines h
  | tree => apply Program.legible_of_mem_read h

theorem legible_of_mem_closing {α : Type} {finished : α → List Event} {result : Except Error α}
    {event : Event} (hfinished : ∀ value, ∀ event ∈ finished value, event.Legible)
    (h : event ∈ closing finished result) :
  event.Legible
  := by
  cases result with
  | ok value => apply hfinished value event h
  | error error =>
    obtain rfl := List.mem_singleton.mp h
    trivial

theorem legible_of_mem_emission {event : Event} (h : event ∈ mode.emission script) :
  event.Legible
  := by
  have hcall (mode : Mode)
      (h : event ∈ (mode.call script).events ++ closing (fun _ => []) (mode.call script).result) :
      event.Legible := by
    rcases List.mem_append.mp h with hevent | hclosing
    · apply legible_of_mem_call hevent
    · apply legible_of_mem_closing _ hclosing
      simp
  cases mode with
  | run =>
    rcases List.mem_append.mp h with hevent | hclosing
    · rcases List.mem_cons.mp hevent with rfl | hevent
      · trivial
      · apply legible_of_mem_run hevent
    · apply legible_of_mem_closing _ hclosing
      intro env event hmem
      obtain rfl := List.mem_singleton.mp hmem
      trivial
  | tokens => apply hcall .tokens h
  | tree => apply hcall .tree h

/-- If `mode.call script` ends with `error`, then the message of `error` is one line. -/
theorem oneLine_message_of_call {error : Error} (h : (mode.call script).result = .error error) :
  OneLine error.message
  := by
  cases mode with
  | run => apply oneLine_message_of_run (Except.map_eq_error_iff.mp h)
  | tokens =>
    rw [← Outcome.result_ofScript] at h
    obtain ⟨first, rfl, -⟩ := Outcome.exists_firstFault h
    apply (Error.Stems.scan first.refused).oneLine_message
  | tree =>
    obtain ⟨line, -, hstems⟩ := Program.exists_stems_of_parse (Except.map_eq_error_iff.mp h)
    apply hstems.oneLine_message

end Mode

/-! ### Answers -/

namespace Answer

/-- The lines that show an error to the user: its `Error.message`, or none if there is no error. -/
def complaint : Except Error Unit → List String
  | .ok () => []
  | .error error => [error.message]

variable {logger : Logger} {selects : Event → Bool} {outcome : Outcome}

theorem output_ofOutcome :
  (ofOutcome logger selects outcome).output = outcome.output
  := by
  rw [ofOutcome]
  split <;> rfl

/-- With `logger'` and `selects'` instead of `logger` and `selects`, the output and the exit code of
`Answer.ofOutcome` are the same. -/
theorem ofOutcome_of_logger (logger' : Logger) (selects' : Event → Bool) :
  (ofOutcome logger' selects' outcome).output = (ofOutcome logger selects outcome).output
    ∧ (ofOutcome logger' selects' outcome).code = (ofOutcome logger selects outcome).code
  := by
  rw [ofOutcome, ofOutcome]
  cases outcome.result <;> exact ⟨rfl, rfl⟩

theorem code_ofOutcome :
  (ofOutcome logger selects outcome).code = 0 ↔ outcome.result = .ok ()
  := by
  rw [ofOutcome]
  cases outcome.result <;> simp

theorem errors_ofOutcome :
  (ofOutcome logger selects outcome).errors
    = logger.lines selects (outcome.events ++ Mode.closing (fun _ => []) outcome.result)
      ++ complaint outcome.result
  := by
  rw [ofOutcome]
  cases outcome.result with
  | ok value => simp [Mode.closing, complaint]
  | error error => rfl

variable {request : Request} {setting : Option String} {script : String}

/-- The error stream of `Answer.ofScript` has one line for each event of `Mode.emission` that is
selected, and one for an error. -/
theorem errors_ofScript :
  (ofScript logger request setting (.ok script)).errors
    = logger.lines (logger.selection request.verbosity setting) (request.mode.emission script)
      ++ complaint (request.mode.call script).result
  := by
  rw [ofScript, errors_ofOutcome, ← Outcome.emission_eq, Outcome.result_ofScript]

theorem oneLine_of_mem_errors (hlogger : logger.Reliable) {line : String}
    (h : line ∈ (ofScript logger request setting (.ok script)).errors) :
  OneLine line
  := by
  rw [errors_ofScript] at h
  rcases List.mem_append.mp h with hline | hmessage
  · apply hlogger.oneLine_of_mem_lines _ hline
    intro event hevent
    apply Mode.legible_of_mem_emission hevent
  · cases hresult : (request.mode.call script).result with
    | ok value =>
      rw [hresult] at hmessage
      cases hmessage
    | error error =>
      rw [hresult] at hmessage
      obtain rfl := List.mem_singleton.mp hmessage
      apply Mode.oneLine_message_of_call hresult

/-- The output and the exit code of `Answer.ofScript` do not depend on the log: neither on `logger`,
nor on `setting` and the verbosity of `request`.  The output of a run is that of `IntScript.run`,
also if the run fails, and the tree of `script` is shown by `Program.text`, or by nothing if
`Program.parse` fails.  The exit code is zero exactly if `Mode.call` succeeds.  The error stream
consists of the lines for the events that `Logger.selection` selects, in the order of
`Mode.emission`, and of the message if the call fails, each on one line.  Unless there is a setting,
the lines selected at a verbosity `v` are among those selected at `w`, in the same order, if `v ≤
w`. -/
theorem ofScript_refines_call {logger : Logger} (hlogger : logger.Reliable) (request : Request)
    (setting : Option String) (script : String) :
  let answer := ofScript logger request setting (.ok script)
  let emission := request.mode.emission script
  (∀ logger' request' setting', request'.mode = request.mode →
    (ofScript logger' request' setting' (.ok script)).output = answer.output
      ∧ (ofScript logger' request' setting' (.ok script)).code = answer.code)
  ∧ (request.mode = .run → answer.output = (run script none).output)
  ∧ (request.mode = .tree →
    (∀ program, Program.parse script = .ok program → answer.output = program.text)
      ∧ ∀ error, Program.parse script = .error error → answer.output = "")
  ∧ (answer.code = 0 ↔ (request.mode.call script).result = .ok ())
  ∧ answer.errors
    = logger.lines (logger.selection request.verbosity setting) emission
      ++ complaint (request.mode.call script).result
  ∧ (∀ line ∈ answer.errors, OneLine line)
  ∧ ∀ v w, v ≤ w →
    (logger.lines (logger.selection v none) emission).Sublist
      (logger.lines (logger.selection w none) emission)
  := by
  intro answer emission
  refine ⟨?_, ?_, ?_, ?_, ?_, ?_, ?_⟩
  · intro logger' request' setting' hmode
    rw [ofScript, hmode]
    apply ofOutcome_of_logger
  · intro hmode
    apply output_ofOutcome.trans
    rw [hmode]
    rfl
  · intro hmode
    have houtput : answer.output = (Outcome.ofTree script).output := by
      apply output_ofOutcome.trans
      rw [hmode]
      rfl
    rw [houtput]
    constructor
    · intro program hparse
      apply Outcome.output_ofTree_of_ok hparse
    · intro error hparse
      apply Outcome.output_ofTree_of_error hparse
  · rw [← Outcome.result_ofScript]
    apply code_ofOutcome
  · apply errors_ofScript
  · intro line hmem
    apply oneLine_of_mem_errors hlogger hmem
  · intro v w hle
    apply hlogger.sublist_lines hle

/-- A run that prints a number and then fails at a name, logged by `Logger.filtering` with a clock
that counts seconds.  Asking for more detail, or a setting with a directive for a span that there is
none of, adds to the log, but changes neither the output nor the exit code.  The tree of the script
can be shown. -/
theorem ofScript_refines_call_of_unknown_name :
  let logger := Logger.filtering fun moment => "12:00:0" ++ Decimal.text moment ++ "Z "
  let script := "print(7)\nprint(x)"
  let quiet : Request := ⟨.run, false, 0, script⟩
  let verbose : Request := ⟨.run, false, 1, script⟩
  let tree : Request := ⟨.tree, true, 0, "script"⟩
  logger.Reliable
  ∧ ofScript logger quiet none (.ok script) = ⟨1, "7\n", ["Name 'x' is not defined."]⟩
  ∧ (ofScript logger verbose none (.ok script)).errors
    = ["12:00:00Z  INFO running script bytes=17", "Name 'x' is not defined."]
  ∧ (ofScript logger quiet (some "minipy[foo]=trace,[{bytes}]=info") (.ok script)).errors
    = ["12:00:00Z  INFO running script bytes=17", "Name 'x' is not defined."]
  ∧ ((ofScript logger verbose (some "minipy=trace") (.ok script)).output = "7\n"
    ∧ (ofScript logger verbose (some "minipy=trace") (.ok script)).code = 1)
  ∧ (logger.lines (logger.selection 0 none) (Mode.run.emission script)).Sublist
    (logger.lines (logger.selection 1 none) (Mode.run.emission script))
  ∧ (ofScript logger tree none (.ok script)).output = "print(7)\nprint(x)\n"
  := by
  intro logger script quiet verbose tree
  have hlogger : logger.Reliable := by
    have hstart : OneLine "12:00:0" := by decide
    have hend : OneLine "Z " := by decide
    apply Logger.reliable_filtering
    intro moment
    apply (hstart.append (Decimal.oneLine_text moment)).append hend
  have hquiet : ofScript logger quiet none (.ok script)
      = ⟨1, "7\n", ["Name 'x' is not defined."]⟩ := by
    decide +kernel
  obtain ⟨hsame, -, -, -, -, -, hsublist⟩ := ofScript_refines_call hlogger quiet none script
  obtain ⟨-, -, htree, -⟩ := ofScript_refines_call hlogger tree none script
  have htraced := hsame logger verbose (some "minipy=trace") rfl
  rw [hquiet] at htraced
  refine ⟨hlogger, hquiet, ?_, ?_, htraced, ?_, ?_⟩
  · decide +kernel
  · decide +kernel
  · apply hsublist 0 1
    decide
  · apply (htree rfl).1 [.print (some (.num 7)), .print (some (.name "x"))]
    decide

end Answer

end IntScript
