import IntScript.Proofs.Except
import IntScript.Source

/-!
# Reading a source

A source is read by parsing its lines one after the other, and it is read as a program exactly
when its lines that are not blank spell out the statements of the program, one by one.  Neither
the events nor, as long as nothing fails, the numbers of the lines have a part in this.  A line that
cannot be read gives its number in the error, and the numbers grow from line to line.
-/

namespace IntScript

/-- The `text` is scanned and parsed as `statement`. -/
def Spells (text : String) (statement : Statement) : Prop :=
  ∃ tokens, tokenize text = .ok tokens ∧ Statement.parse tokens = .ok statement

namespace Line

/-- A `line` is parsed as `statement` if and only if its text spells it. -/
theorem parse_eq_ok_iff {line : Line} {statement : Statement} :
  line.parse = .ok statement ↔ Spells line.text statement
  := by
  rw [parse_eq, Except.bind_eq_ok_iff]
  simp only [Except.mapError_eq_ok_iff]
  rfl

/-- To parse `line` is to scan it and to parse its tokens. -/
theorem parse_eq_bind (line : Line) :
  line.parse = line.scan.result >>= fun tokens =>
    (Statement.parse tokens).mapError (Error.parse line.number)
  := line.parse_eq

/-- The `error` of `line` is that of scanning it, or that of parsing its tokens. -/
theorem parse_eq_error_iff {line : Line} {error : Error} :
  line.parse = .error error
    ↔ line.scan.result = .error error
      ∨ ∃ tokens cause, line.scan.result = .ok tokens ∧ Statement.parse tokens = .error cause
        ∧ .parse line.number cause = error
  := by
  rw [parse_eq_bind, Except.bind_eq_error_iff]
  simp only [Except.mapError_eq_error_iff, exists_and_left]

/-- The texts of `Line.all` are the lines of `source`. -/
theorem map_text_all (source : String) :
  (all source).map text = lines source
  := by
  apply List.ext_getElem
  · simp [all]
  · intro i hi hi'
    simp [all]

/-- The texts of `Line.ofSource` are the lines of `source` that are not blank. -/
theorem map_text_ofSource (source : String) :
  (ofSource source).map text = (lines source).filter fun text => !isBlank text
  := by
  rw [ofSource, ← map_text_all, List.filter_map]
  rfl

/-- The numbers of `Line.ofSource` are in ascending order. -/
theorem ascending_ofSource (source : String) :
  (ofSource source).Pairwise fun a b => a.number < b.number
  := by
  apply List.Pairwise.filter
  rw [List.pairwise_iff_getElem]
  intro i j hi hj hlt
  simpa [all] using hlt

/-- The `error` of `line` gives its number. -/
theorem line?_of_parse {line : Line} {error : Error} (h : line.parse = .error error) :
  error.line? = some line.number
  := by
  rw [parse_eq, Except.bind_eq_error_iff] at h
  rcases h with h | ⟨tokens, -, h⟩
  · obtain ⟨fault, -, rfl⟩ := Except.mapError_eq_error_iff.mp h
    rfl
  · obtain ⟨cause, -, rfl⟩ := Except.mapError_eq_error_iff.mp h
    rfl

end Line

namespace Program

/-- To read `lines` is to parse them one after the other, up to the first that fails. -/
theorem result_readLines (lines : List Line) :
  (readLines lines).result = lines.mapM Line.parse
  := by
  induction lines with
  | nil => rfl
  | cons line rest ih =>
    rw [List.mapM_cons, ← ih, readLines, Logged.result_bind]
    simp only [Logged.result_bind, Logged.result_pure]
    rfl

/-- To parse `source` is to parse its lines that are not blank. -/
theorem parse_eq_mapM (source : String) :
  parse source = (Line.ofSource source).mapM Line.parse
  := result_readLines (Line.ofSource source)

/-- A `source` is parsed as `program` if and only if its lines that are not blank spell the
statements. -/
theorem parse_eq_ok_iff {source : String} {program : Program} :
  parse source = .ok program
    ↔ List.Forall₂ Spells ((lines source).filter fun text => !isBlank text) program
  := by
  rw [parse_eq_mapM, Except.mapM_eq_ok_iff, ← Line.map_text_ofSource, List.forall₂_map_left_iff]
  simp only [Line.parse_eq_ok_iff]

/-- The `error` of `source` gives the number of one of its lines. -/
theorem exists_line_of_parse {source : String} {error : Error} (h : parse source = .error error) :
  ∃ line ∈ Line.ofSource source, error.line? = some line.number
  := by
  rw [parse_eq_mapM] at h
  obtain ⟨before, line, after, -, hlines, -, herror⟩ := Except.exists_of_mapM_eq_error h
  rw [hlines]
  use line, List.mem_append_right before List.mem_cons_self, Line.line?_of_parse herror

/-- If `source` is parsed, then each `text` among its lines is blank or spells a statement. -/
theorem exists_spells_of_parse {source text : String} {program : Program}
    (h : parse source = .ok program) (hmem : text ∈ lines source) (hblank : ¬ isBlank text) :
  ∃ statement, Spells text statement
  := by
  rw [parse_eq_ok_iff] at h
  have hmem : text ∈ (lines source).filter fun text => !isBlank text := by
    rw [List.mem_filter, Bool.not_eq_true']
    use hmem, Bool.eq_false_iff.mpr hblank
  generalize (lines source).filter (fun text => !isBlank text) = texts at h hmem
  induction h with
  | nil => cases hmem
  | @cons _ statement _ _ hspells _ ih =>
    rcases List.mem_cons.mp hmem with rfl | hmem
    · use statement
    · apply ih hmem

end Program

end IntScript
