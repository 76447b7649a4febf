import IntScript.Log.Filter
import IntScript.Proofs.Log.OneLine
import Mathlib.Data.List.Basic

/-!
# What is relied on of a logger

The program leaves it to a logger to understand settings and to write events down.  It relies on
two facts about it, which `Logger.Reliable` states: the word for a severity selects what it should,
and an event that has nothing but single lines in its fields is recorded in a single line.

From the first it follows that a log with more detail asked for has all the lines of one with less
(`Logger.Reliable.sublist_lines`), and from the second that everything in the log is a single line
(`Logger.Reliable.oneLine_of_mem_lines`).  The logger `Logger.filtering` is reliable
(`Logger.reliable_filtering`).
-/

namespace IntScript

namespace Logger

variable {logger : Logger} {events : List Event}

/-- If `more` selects all that `less` selects, then the lines for `less` are among those for
`more`, in the same order. -/
theorem sublist_lines {less more : Event → Bool} (h : ∀ event, less event → more event) :
  (logger.lines less events).Sublist (logger.lines more events)
  := by
  apply List.Sublist.map
  apply List.monotone_filter_right
  intro p
  apply h

/-- A line of the log records one of the `events`. -/
theorem exists_of_mem_lines {selects : Event → Bool} {line : String}
    (h : line ∈ logger.lines selects events) :
  ∃ event ∈ events, ∃ moment, line = logger.line moment event
  := by
  obtain ⟨p, hp, rfl⟩ := List.mem_map.mp h
  obtain ⟨hmem, -⟩ := List.mem_filter.mp hp
  use p.1, List.fst_mem_of_mem_zipIdx hmem, p.2

/-- What the program relies on of `logger`.  The word for a severity is a setting that selects the
events of this severity and of the graver ones.  At each moment, an event whose fields are single
lines is recorded in a single line. -/
structure Reliable (logger : Logger) : Prop where
  selection?_word : ∀ limit : Severity,
    logger.selection? limit.word = some fun event => limit.admits event.severity
  oneLine_line : ∀ moment event, (∀ p ∈ event.fields, OneLine p.2.text) →
    OneLine (logger.line moment event)

namespace Reliable

/-- Without a setting, a limit decides, which `verbosity` raises step by step, until it selects
all the events. -/
theorem selection_none (h : logger.Reliable) {verbosity : Nat} {event : Event} :
  logger.selection verbosity none event ↔ event.severity.detail ≤ min (verbosity + 2) 5
  := by
  have hdetail : (Severity.ofVerbosity verbosity).detail = min (verbosity + 2) 5 := by
    match verbosity with
    | 0 | 1 | 2 => rfl
    | verbosity + 3 =>
      have hmin : min (verbosity + 3 + 2) 5 = 5 := by omega
      rw [hmin]
      rfl
  simp [selection, h.selection?_word, Severity.admits, hdetail]

/-- With more detail asked for, nothing is dropped from the log. -/
theorem sublist_lines (h : logger.Reliable) {v w : Nat} (hle : v ≤ w) :
  (logger.lines (logger.selection v none) events).Sublist
    (logger.lines (logger.selection w none) events)
  := by
  apply Logger.sublist_lines
  intro event hselects
  rw [h.selection_none] at hselects ⊢
  omega

/-- Legible events are recorded in single lines. -/
theorem oneLine_of_mem_lines (h : logger.Reliable) (hlegible : ∀ event ∈ events, event.Legible)
    {selects : Event → Bool} {line : String} (hmem : line ∈ logger.lines selects events) :
  OneLine line
  := by
  obtain ⟨event, hevent, moment, rfl⟩ := exists_of_mem_lines hmem
  apply h.oneLine_line
  apply Event.oneLine_fields (hlegible event hevent)

end Reliable

/-! ### Filters -/

/-- The word for a severity is read as the filter that is open up to this severity. -/
theorem ofSetting?_word (limit : Severity) :
  Filter.ofSetting? limit.word = some (.uniform limit)
  := by
  cases limit <;> decide +kernel

theorem selects_uniform (limit : Severity) :
  (Filter.uniform limit).selects = fun event => limit.admits event.severity
  := by
  funext event
  simp [Filter.uniform, Filter.selects, Filter.decisive?, Directive.covers, Directive.admits]

/-- A logger that reads settings as filters is reliable, if its clock shows single lines. -/
theorem reliable_filtering {clock : Nat → String} (h : ∀ moment, OneLine (clock moment)) :
  (filtering clock).Reliable
  := by
  constructor
  · intro limit
    calc (Filter.ofSetting? limit.word).map Filter.selects
      _ = some (Filter.uniform limit).selects := by rw [ofSetting?_word, Option.map_some]
      _ = some fun event => limit.admits event.severity := by rw [selects_uniform]
  · intro moment event hfields
    apply (h moment).append (Event.oneLine_entry hfields)

end Logger

end IntScript
