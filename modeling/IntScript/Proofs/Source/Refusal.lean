import IntScript.Proofs.Execution.DefiniteAssignment
import IntScript.Proofs.Expr.FirstFailure
import IntScript.Proofs.Expr.ViablePrefix
import IntScript.Proofs.RoundTrip
import IntScript.Proofs.Token.Cursor

/-!
# Why a source is refused

Some errors guard against tokens and trees that were put together by hand: a number that is no
numeral, an operator that does not exist, a statement without tokens, an expression in the place of
a statement.  No source gives rise to them (`source_excludes_defensive_errors`).

The tokens of a line are well formed, so the only complaint about them is that one of them is out of
place, or that they end too early; and a line without tokens is blank, because the characters that
separate tokens are white space.  What goes wrong in a run is a name, a division or the output.
-/

namespace IntScript

/-! ### Statements -/

/-- The error is about the end of the `tokens` of a statement, or about one of them. -/
inductive ParseError.Concerns (tokens : List Token) : ParseError → Prop where
  | atEnd {cause : ParseError} (ends : cause.AtEnd) :
      Concerns tokens cause
  | atToken {token : Token} {cause : ParseError} (mem : token ∈ tokens)
      (blames : cause.AtToken token) :
      Concerns tokens cause
  | missingOpening :
      Concerns tokens (.unexpectedEnd .openingAfterPrint)
  | wrongOpening {token : Token} (mem : token ∈ tokens) :
      Concerns tokens (.unexpectedToken token .openingAfterPrint)
  | invalidStatement {token : Token} (mem : token ∈ tokens) :
      Concerns tokens (.invalidStatement token)

/-- An error that concerns `ts` concerns `us` if they are among them. -/
theorem ParseError.Concerns.mono {ts us : List Token} {cause : ParseError}
    (h : cause.Concerns ts) (hsubset : ts ⊆ us) :
  cause.Concerns us
  := by
  cases h with
  | atEnd ends => apply Concerns.atEnd ends
  | atToken mem blames => apply Concerns.atToken (hsubset mem) blames
  | missingOpening => apply Concerns.missingOpening
  | wrongOpening mem => apply Concerns.wrongOpening (hsubset mem)
  | invalidStatement mem => apply Concerns.invalidStatement (hsubset mem)

theorem Expr.concerns_of_parse {tokens : List Token} {cause : ParseError}
    (hwellFormed : ∀ token ∈ tokens, token.isWellFormed) (h : parse tokens = .error cause) :
  cause.Concerns tokens
  := by
  rcases Place.start.blamesEarliest hwellFormed h with
    ⟨hend, -⟩ | ⟨before, token, after, rfl, hblames, -⟩
  · apply ParseError.Concerns.atEnd hend
  · apply ParseError.Concerns.atToken _ hblames
    apply List.mem_append_right _ List.mem_cons_self

namespace Statement

theorem concerns_of_parsePrint {tokens : List Token} {cause : ParseError}
    (hwellFormed : ∀ token ∈ tokens, token.isWellFormed) (h : parsePrint tokens = .error cause) :
  cause.Concerns tokens
  := by
  cases tokens with
  | nil =>
    cases h
    apply ParseError.Concerns.missingOpening
  | cons opening rest =>
    rw [parsePrint] at h
    split at h
    next =>
      cases h
      apply ParseError.Concerns.wrongOpening List.mem_cons_self
    next =>
      split at h
      next =>
        cases h
        apply ParseError.Concerns.atEnd ParseError.AtEnd.unclosedParen
      next closing hlast =>
        split at h
        next =>
          cases h
          apply ParseError.Concerns.atToken _ ParseError.AtToken.unclosedParen
          apply List.mem_cons_of_mem _ (List.mem_of_getLast? hlast)
        next =>
          split at h
          next => cases h
          next =>
            have hsubset : rest.dropLast ⊆ opening :: rest :=
              List.subset_cons_of_subset opening (List.dropLast_subset rest)
            have hinner : ∀ token ∈ rest.dropLast, token.isWellFormed :=
              fun token hmem => hwellFormed token (hsubset hmem)
            apply (Expr.concerns_of_parse hinner (Except.map_eq_error_iff.mp h)).mono hsubset

/-- If well-formed `tokens` are not parsed, then the `cause` concerns them. -/
theorem concerns_of_parse {tokens : List Token} {cause : ParseError} (hne : tokens ≠ [])
    (hwellFormed : ∀ token ∈ tokens, token.isWellFormed) (h : parse tokens = .error cause) :
  cause.Concerns tokens
  := by
  unfold parse at h
  split at h
  next => cases hne rfl
  next first rest =>
    obtain ⟨-, hrest⟩ := List.forall_mem_cons.mp hwellFormed
    split at h
    next => apply (concerns_of_parsePrint hrest h).mono (List.subset_cons_self first _)
    next second value _ =>
      split at h
      next =>
        obtain ⟨-, hvalue⟩ := List.forall_mem_cons.mp hrest
        apply (Expr.concerns_of_parse hvalue (Except.map_eq_error_iff.mp h)).mono
        intro token hmem
        apply List.mem_cons_of_mem _ (List.mem_cons_of_mem _ hmem)
      next =>
        cases h
        apply ParseError.Concerns.invalidStatement List.mem_cons_self
    next =>
      cases h
      apply ParseError.Concerns.invalidStatement List.mem_cons_self

end Statement

/-! ### Lines -/

/-- A separator of tokens is white space. -/
theorem isWhiteSpace_of_isSeparator {c : Char} (h : isSeparator c) :
  isWhiteSpace c
  := by
  simp only [isSeparator, Bool.or_eq_true, decide_eq_true_eq] at h
  rcases h with (rfl | rfl) | rfl
  all_goals decide

/-- If `chars` are scanned as no tokens, then all of them are separators. -/
theorem Scan.isSeparator_of_result_nil {offset : Nat} {chars : List Char}
    (h : (ofChars offset 0 chars).result = .ok []) :
  ∀ c ∈ chars, isSeparator c
  := by
  induction chars using scan_induction generalizing offset with
  | nil => simp
  | separator c rest hc ih =>
    rw [ofChars_separator _ _ hc] at h
    rw [List.forall_mem_cons]
    exact ⟨hc, ih h⟩
  | foreign c rest hc =>
    rw [ofChars_foreign _ _ hc] at h
    cases h
  | token token rest hleads ih =>
    rw [ofChars_token _ hleads, result_cons] at h
    obtain ⟨tokens, -, hcons⟩ := Except.map_eq_ok_iff.mp h
    cases hcons

/-- If `text` is scanned as no tokens, then it is blank. -/
theorem isBlank_of_tokenize {text : String} (h : tokenize text = .ok []) :
  isBlank text
  := by
  apply List.all_eq_true.mpr
  intro c hmem
  apply isWhiteSpace_of_isSeparator (Scan.isSeparator_of_result_nil h c hmem)

/-- The error is that of `line`: a foreign character, or a complaint that concerns its tokens. -/
inductive Error.Stems (line : Line) : Error → Prop where
  | scan {fault : UnexpectedCharacter} (refused : tokenize line.text = .error fault) :
      Stems line (.scan line.number fault)
  | parse {tokens : List Token} {cause : ParseError} (scanned : tokenize line.text = .ok tokens)
      (concerns : cause.Concerns tokens) :
      Stems line (.parse line.number cause)

theorem Line.stems_of_parse {line : Line} {error : Error} (hblank : isBlank line.text = false)
    (h : line.parse = .error error) :
  error.Stems line
  := by
  rcases parse_eq_error_iff.mp h with hscan | ⟨tokens, cause, hscan, hparse, rfl⟩
  · obtain ⟨fault, hfault, rfl⟩ := Except.mapError_eq_error_iff.mp hscan
    apply Error.Stems.scan hfault
  · have htokens : tokenize line.text = .ok tokens := Except.mapError_eq_ok_iff.mp hscan
    apply Error.Stems.parse htokens
    apply Statement.concerns_of_parse _ (isWellFormed_of_tokenize htokens) hparse
    rintro rfl
    rw [isBlank_of_tokenize htokens] at hblank
    cases hblank

/-- If `source` is not parsed, then the `error` stems from one of its lines. -/
theorem Program.exists_stems_of_parse {source : String} {error : Error}
    (h : parse source = .error error) :
  ∃ line ∈ Line.ofSource source, error.Stems line
  := by
  rw [parse_eq_mapM] at h
  obtain ⟨before, line, after, -, hlines, -, herror⟩ := Except.exists_of_mapM_eq_error h
  have hmem : line ∈ Line.ofSource source := by
    rw [hlines]
    apply List.mem_append_right _ List.mem_cons_self
  obtain ⟨-, hblank⟩ := List.mem_filter.mp hmem
  rw [Bool.not_eq_true'] at hblank
  use line, hmem, Line.stems_of_parse hblank herror

/-! ### Runs -/

/-- If `expr` does not evaluate, then a name is unknown, or a division is by zero. -/
theorem Expr.cases_of_eval_error {expr : Expr} {env : Environment} {cause : RuntimeError}
    (h : expr.eval env = .error cause) :
  (∃ name, cause = .unknownVariable name) ∨ cause = .divisionByZero
  := by
  obtain ⟨before, node, after, -, -, hfails⟩ := firstFails_of_eval h
  cases node with
  | num value =>
    rw [Fails] at hfails
    cases hfails
  | name identifier =>
    rw [Fails] at hfails
    left
    use identifier, hfails.2
  | binary op left right =>
    rw [Fails] at hfails
    obtain ⟨-, -, -, -, hcause⟩ := hfails
    right
    apply hcause

/-- If `program` fails, then a name is unknown, or a division is by zero, or the `sink` is full. -/
theorem Program.cases_of_failure {program : Program} {env : Environment} {sink : Sink}
    {cause : RuntimeError} (h : (program.execute env sink).failure = some cause) :
  (∃ name, cause = .unknownVariable name) ∨ cause = .divisionByZero
    ∨ cause = .output sink.reason
  := by
  obtain ⟨progress⟩ := Execution.exists_progress (.start env sink) program rfl
  obtain ⟨statement, -, -, houtput | heffect⟩ := progress.halts.exists_of_failure rfl h
  · right
    right
    rw [houtput, Execution.advance, Sink.reason_write]
    rfl
  · obtain ⟨-, effect, hok⟩ | ⟨expr, outcome, -, heval⟩ := statement.effect_cases
    · rw [hok] at heffect
      cases heffect
    · rw [heval] at heffect
      rcases Expr.cases_of_eval_error (Except.map_eq_error_iff.mp heffect) with hname | hzero
      · left
        apply hname
      · right
        left
        apply hzero

/-- If `source` is not run, then the `error` stems from a line, or its program fails. -/
theorem cases_of_run {source : String} {room : Option Nat} {error : Error}
    (h : (run source room).result = .error error) :
  (∃ line, error.Stems line)
    ∨ ∃ program cause, Program.parse source = .ok program
      ∧ (program.execute .empty (.start room)).failure = some cause ∧ error = .runtime cause
  := by
  cases hparse : Program.parse source with
  | error error' =>
    obtain ⟨-, hresult⟩ := run_of_parse_error hparse room
    rw [hresult] at h
    cases h
    obtain ⟨line, -, hstems⟩ := Program.exists_stems_of_parse hparse
    left
    use line
  | ok program =>
    obtain ⟨-, hresult⟩ := run_of_parse_ok hparse room
    rw [hresult] at h
    obtain ⟨cause, hcause, rfl⟩ := Except.mapError_eq_error_iff.mp h
    right
    use program, cause, rfl, Execution.result_eq_error_iff.mp hcause

/-- The errors that guard against tokens and trees put together by hand. -/
inductive Error.Defensive : Error → Prop where
  | emptyStatement (line : Nat) : Defensive (.parse line .emptyStatement)
  | invalidNumber (line : Nat) (text : String) : Defensive (.parse line (.invalidNumber text))
  | unknownOperator (line : Nat) (text : String) : Defensive (.parse line (.unknownOperator text))
  | bareExpression : Defensive (.runtime .bareExpression)

theorem Error.Stems.not_defensive {line : Line} {error : Error} (h : error.Stems line) :
  ¬ error.Defensive
  := by
  intro hdefensive
  cases h with
  | scan refused => cases hdefensive
  | parse scanned concerns =>
    cases concerns with
    | atEnd ends => cases ends <;> cases hdefensive
    | atToken mem blames => cases blames <;> cases hdefensive
    | missingOpening => cases hdefensive
    | wrongOpening mem => cases hdefensive
    | invalidStatement mem => cases hdefensive

theorem run_not_defensive {source : String} {room : Option Nat} {error : Error}
    (h : (run source room).result = .error error) :
  ¬ error.Defensive
  := by
  rcases cases_of_run h with ⟨line, hstems⟩ | ⟨program, cause, -, hfailure, rfl⟩
  · apply hstems.not_defensive
  · intro hdefensive
    cases hdefensive
    rcases Program.cases_of_failure hfailure with ⟨name, hname⟩ | hzero | hclosed
    · cases hname
    · cases hzero
    · cases hclosed

/-- If `source` is parsed, then there is a statement for each line with a character that is no white
space. -/
theorem Program.length_of_parse {source : String} {program : Program}
    (h : parse source = .ok program) :
  program.length
    = (lines source).countP fun line => line.toList.any fun c => !isWhiteSpace c
  := by
  have hlength := (parse_eq_ok_iff.mp h).length_eq
  rw [← hlength, List.countP_eq_length_filter]
  simp only [isBlank, List.not_all_eq_any_not]

/-- By `Program.parse` and by `run`, no `source` has a defensive error.  A `program` that is parsed
is representable, and has one statement for each line with a character that is no white space. -/
theorem source_excludes_defensive_errors (source : String) :
  (∀ error, Program.parse source = .error error → ¬ error.Defensive)
    ∧ (∀ room error, (run source room).result = .error error → ¬ error.Defensive)
    ∧ ∀ program, Program.parse source = .ok program →
      program.isRepresentable
      ∧ program.length
        = (lines source).countP fun line => line.toList.any fun c => !isWhiteSpace c
  := by
  refine ⟨?_, ?_, ?_⟩
  · intro error hparse
    obtain ⟨line, -, hstems⟩ := Program.exists_stems_of_parse hparse
    apply hstems.not_defensive
  · intro room error hrun
    apply run_not_defensive hrun
  · intro program hparse
    use Program.isRepresentable_of_parse hparse
    apply Program.length_of_parse hparse

/-- The second line of `source` is an em space; another source is nothing but the keyword, and a
third one divides by zero. -/
theorem source_excludes_defensive_errors_em_space :
  let source := "x2 = 007\n\u2003\nprint(x2)"
  let program : Program := [.assign "x2" (.num 7), .print (some (.name "x2"))]
  let keyword : Error := .parse 1 (.unexpectedEnd .openingAfterPrint)
  let division : Error := .runtime .divisionByZero
  (Program.parse source = .ok program ∧ program.isRepresentable
    ∧ program.length
      = (lines source).countP fun line => line.toList.any fun c => !isWhiteSpace c)
  ∧ (Program.parse "print" = .error keyword ∧ ¬ keyword.Defensive)
  ∧ ((run "print(1 / 0)" none).result = .error division ∧ ¬ division.Defensive)
  := by
  intro source program keyword division
  have hsource : Program.parse source = .ok program := by decide
  have hkeyword : Program.parse "print" = .error keyword := by decide
  have hdivision : (run "print(1 / 0)" none).result = .error division := by decide
  obtain ⟨-, -, hprogram⟩ := source_excludes_defensive_errors source
  obtain ⟨hparse, -, -⟩ := source_excludes_defensive_errors "print"
  obtain ⟨-, hrun, -⟩ := source_excludes_defensive_errors "print(1 / 0)"
  exact ⟨⟨hsource, hprogram program hsource⟩, ⟨hkeyword, hparse _ hkeyword⟩, hdivision,
    hrun none _ hdivision⟩

end IntScript
