import IntScript.CommandLine.Answer
import IntScript.Proofs.RoundTrip

/-!
# Showing tokens and reading programs

The tokens of a script are shown line by line, up to the first line that cannot be scanned.  A
script is read line by line too, but there a line may also fail to be parsed.  So the two fail at
the same line and with the same error, unless an earlier line can be scanned and not parsed
(`Outcome.ofTokens_agrees_with_parse`).

What is shown of a line is one line of the output, as no token contains a line feed.
-/

namespace IntScript

/-! ### Unbroken descriptions -/

/-- If `separator` and all of `texts` are `Unbroken`, then so is `separator.intercalate texts`. -/
theorem Unbroken.intercalate {separator : String} {texts : List String}
    (hseparator : Unbroken separator) (h : ∀ text ∈ texts, Unbroken text) :
  Unbroken (separator.intercalate texts)
  := by
  induction texts with
  | nil =>
    rw [String.intercalate_nil]
    decide
  | cons text rest ih =>
    rw [List.forall_mem_cons] at h
    cases rest with
    | nil =>
      rw [String.intercalate_singleton]
      apply h.1
    | cons next rest =>
      rw [String.intercalate_cons_cons]
      apply (h.1.append hseparator).append (ih h.2)

/-- Unbroken `texts` that are each ended by a line feed become lines again. -/
theorem lines_join {texts : List String} (h : ∀ text ∈ texts, Unbroken text) :
  lines (String.join (texts.map (· ++ "\n"))) = texts
  := by
  induction texts with
  | nil =>
    rw [List.map_nil, String.join_nil]
    rfl
  | cons text rest ih =>
    rw [List.forall_mem_cons] at h
    rw [List.map_cons, String.join_cons, lines_append_feed _ h.1, ih h.2]

/-- The text of a `token` that is well-formed is part of one line. -/
theorem Token.unbroken_of_isWellFormed {token : Token} (h : token.isWellFormed) :
  Unbroken token.text
  := by
  obtain ⟨kind, text⟩ := token
  cases kind with
  | number => apply unbroken_text (.inl rfl) h
  | identifier => apply unbroken_text (.inr rfl) h
  | _ =>
    cases of_decide_eq_true h
    decide

/-- The description of a `token` that is well-formed is part of one line. -/
theorem Token.unbroken_description {token : Token} (h : token.isWellFormed) :
  Unbroken token.description
  := by
  have hname : Unbroken token.kind.name := by cases token.kind <;> decide
  have hopening : Unbroken " '" := by decide
  have hclosing : Unbroken "'" := by decide
  apply ((hname.append hopening).append (unbroken_of_isWellFormed h)).append hclosing

/-! ### Lines -/

namespace Line

variable {line : Line} {error : Error}

/-- What `Outcome.ofTokens` shows of `line`: its number, and the descriptions of its tokens. -/
def shown (line : Line) : String :=
  Decimal.text line.number ++ ": "
    ++ " ".intercalate ((IntScript.scan line.text).tokens.map Token.description)

theorem unbroken_shown (line : Line) :
  Unbroken line.shown
  := by
  have hnumeral : Token.isWellFormed ⟨.number, line.number.repr⟩ :=
    Decimal.isNumeral_repr line.number
  have hnumber := Token.unbroken_of_isWellFormed hnumeral
  have hcolon : Unbroken ": " := by decide
  have htokens : Unbroken
      (" ".intercalate ((IntScript.scan line.text).tokens.map Token.description)) := by
    apply Unbroken.intercalate (by decide)
    rw [List.forall_mem_map]
    intro token hmem
    apply Token.unbroken_description (Scan.isWellFormed_of_mem_tokens hmem)
  apply (hnumber.append hcolon).append htokens

/-- If the text `Line.shown` of each line is ended by a line feed, then these texts are lines again.
-/
theorem lines_join_shown (shownLines : List Line) :
  lines (String.join ((shownLines.map shown).map (· ++ "\n"))) = shownLines.map shown
  := by
  apply lines_join
  rw [List.forall_mem_map]
  intro line _
  apply line.unbroken_shown

theorem scan_eq_ok_iff {tokens : List Token} :
  line.scan.result = .ok tokens ↔ tokenize line.text = .ok tokens
  := Except.mapError_eq_ok_iff

theorem scan_eq_error_iff :
  line.scan.result = .error error
    ↔ ∃ fault, tokenize line.text = .error fault ∧ .scan line.number fault = error
  := Except.mapError_eq_error_iff

/-- If `Line.parse` reads `line`, then `Line.scan` has tokens for it. -/
theorem exists_tokens_of_parse {statement : Statement} (h : line.parse = .ok statement) :
  ∃ tokens, line.scan.result = .ok tokens
  := by
  rw [parse_eq_bind] at h
  obtain ⟨tokens, htokens, -⟩ := Except.bind_eq_ok_iff.mp h
  use tokens

/-- If `Line.parse` fails with an error of the scanner, then `Line.scan` fails with the same error.
-/
theorem scan_of_parse_scan {number : Nat} {fault : UnexpectedCharacter}
    (h : line.parse = .error (.scan number fault)) :
  line.scan.result = .error (.scan number fault)
  := by
  rcases parse_eq_error_iff.mp h with hscan | ⟨tokens, cause, -, -, herror⟩
  · apply hscan
  · cases herror

/-- If `Line.scan` has tokens for `line` but `Line.parse` fails, then the error comes from the
grammar. -/
theorem exists_cause_of_parse {tokens : List Token} (hscan : line.scan.result = .ok tokens)
    (h : line.parse = .error error) :
  ∃ cause, error = .parse line.number cause
  := by
  rcases parse_eq_error_iff.mp h with hfault | ⟨_, cause, -, -, rfl⟩
  · rw [hscan] at hfault
    cases hfault
  · use cause

end Line

theorem tokens_of_tokenize {text : String} {tokens : List Token}
    (h : tokenize text = .ok tokens) :
  (scan text).tokens = tokens
  := by
  unfold tokenize Scan.result at h
  split at h
  next =>
    cases h
    rfl
  next => cases h

/-! ### Scripts -/

/-- The first `line` of `script` that cannot be scanned, with the lines `before` and `after` it that
are not blank, and the `fault` at which the scan is given up. -/
structure FirstFault (script : String) where
  before : List Line
  line : Line
  after : List Line
  fault : UnexpectedCharacter
  lines_eq : Line.ofSource script = before ++ line :: after
  scanned : ∀ earlier ∈ before, ∃ tokens, tokenize earlier.text = .ok tokens
  refused : tokenize line.text = .error fault

namespace Outcome

/-- The result of `ofTokenLines` is that of scanning one line after the other. -/
theorem result_ofTokenLines (lines : List Line) :
  (ofTokenLines lines).result = (lines.mapM fun line : Line => line.scan.result).map fun _ => ()
  := by
  induction lines with
  | nil => rfl
  | cons line rest ih =>
    rw [ofTokenLines, List.mapM_cons]
    cases line.scan.result with
    | error error => rfl
    | ok tokens =>
      simp only [ih]
      cases rest.mapM fun line : Line => line.scan.result <;> rfl

/-- If the lines in `before` can be scanned, then they are shown in front of what is shown of
`rest`. -/
theorem output_ofTokenLines_append {before : List Line} (rest : List Line)
    (h : ∀ line ∈ before, ∃ tokens, line.scan.result = .ok tokens) :
  (ofTokenLines (before ++ rest)).output
    = String.join ((before.map Line.shown).map (· ++ "\n")) ++ (ofTokenLines rest).output
  := by
  induction before with
  | nil => rw [List.map_nil, List.map_nil, String.join_nil, String.empty_append, List.nil_append]
  | cons line before ih =>
    rw [List.forall_mem_cons] at h
    obtain ⟨⟨tokens, htokens⟩, hbefore⟩ := h
    have hshown : tokenLine line.number tokens = line.shown ++ "\n" := by
      rw [tokenLine, Line.shown, tokens_of_tokenize (Line.scan_eq_ok_iff.mp htokens)]
    rw [List.cons_append, ofTokenLines, htokens, List.map_cons, List.map_cons, String.join_cons,
      String.append_assoc, ← ih hbefore, ← hshown]

/-- If `Outcome.ofTokens` fails, then it does so at a `FirstFault`, with one line of output for each
line before it. -/
theorem exists_firstFault {script : String} {error : Error}
    (h : (ofTokens script).result = .error error) :
  ∃ first : FirstFault script, error = .scan first.line.number first.fault
    ∧ lines (ofTokens script).output = first.before.map Line.shown
  := by
  rw [ofTokens, result_ofTokenLines, Except.map_eq_error_iff] at h
  obtain ⟨before, line, after, _, hlines, hbefore, herror⟩ := Except.exists_of_mapM_eq_error h
  obtain ⟨fault, hfault, rfl⟩ := Line.scan_eq_error_iff.mp herror
  have hscanned := Except.exists_mapM_eq_ok_iff.mp ⟨_, hbefore⟩
  use ⟨before, line, after, fault, hlines,
    fun earlier hmem => (hscanned earlier hmem).imp fun _ => Line.scan_eq_ok_iff.mp, hfault⟩
  constructor
  · rfl
  · have hlast : (ofTokenLines (line :: after)).output = "" := by rw [ofTokenLines, herror]
    rw [ofTokens, hlines, output_ofTokenLines_append _ hscanned, hlast, String.append_empty,
      Line.lines_join_shown]

/-- If some `line` of `script` has a `fault`, then `Outcome.ofTokens` fails. -/
theorem exists_error_of_fault {script : String} {line : Line} {fault : UnexpectedCharacter}
    (hmem : line ∈ Line.ofSource script) (h : tokenize line.text = .error fault) :
  ∃ error, (ofTokens script).result = .error error
  := by
  cases hresult : (ofTokens script).result with
  | error error => use error
  | ok _ =>
    rw [ofTokens, result_ofTokenLines] at hresult
    obtain ⟨_, hok, -⟩ := Except.map_eq_ok_iff.mp hresult
    obtain ⟨tokens, htokens⟩ := Except.exists_mapM_eq_ok_iff.mp ⟨_, hok⟩ line hmem
    rw [Line.scan_eq_ok_iff, h] at htokens
    cases htokens

/-- If `Program.parse` fails with an error of the scanner, then `Outcome.ofTokens` fails with the
same error. -/
theorem result_of_parse_scan {script : String} {number : Nat} {fault : UnexpectedCharacter}
    (h : Program.parse script = .error (.scan number fault)) :
  (ofTokens script).result = .error (.scan number fault)
  := by
  rw [Program.parse_eq_mapM] at h
  obtain ⟨before, line, after, _, hlines, hbefore, herror⟩ := Except.exists_of_mapM_eq_error h
  have hscanned : ∃ tokens, before.mapM (fun line => line.scan.result) = .ok tokens := by
    apply Except.exists_mapM_eq_ok_iff.mpr
    intro earlier hmem
    obtain ⟨statement, hstatement⟩ := Except.exists_mapM_eq_ok_iff.mp ⟨_, hbefore⟩ earlier hmem
    apply Line.exists_tokens_of_parse hstatement
  obtain ⟨tokens, htokens⟩ := hscanned
  rw [ofTokens, result_ofTokenLines, Except.map_eq_error_iff, hlines]
  apply Except.mapM_eq_error_of_first htokens (Line.scan_of_parse_scan herror)

/-- If `Outcome.ofTokens` fails at the line with number `number`, then `Program.parse` fails because
of the same line, or because the grammar refuses an `earlier` one. -/
theorem parse_of_result {script : String} {number : Nat} {fault : UnexpectedCharacter}
    (h : (ofTokens script).result = .error (.scan number fault)) :
  Program.parse script = .error (.scan number fault)
    ∨ ∃ earlier cause, earlier < number ∧ Program.parse script = .error (.parse earlier cause)
  := by
  obtain ⟨⟨before, line, after, fault, hlines, hscanned, hfault⟩, herror, -⟩ := exists_firstFault h
  cases herror
  have hline : line.parse = .error (.scan line.number fault) :=
    Line.parse_eq_error_iff.mpr (.inl (Line.scan_eq_error_iff.mpr ⟨fault, hfault, rfl⟩))
  rw [Program.parse_eq_mapM, hlines]
  cases hbefore : before.mapM Line.parse with
  | ok program =>
    left
    apply Except.mapM_eq_error_of_first hbefore hline
  | error error =>
    right
    obtain ⟨front, earlier, back, _, hfront, -, hearlier⟩ :=
      Except.exists_of_mapM_eq_error hbefore
    have hmem : earlier ∈ before := by
      rw [hfront]
      apply List.mem_append_right _ List.mem_cons_self
    obtain ⟨tokens, htokens⟩ := hscanned earlier hmem
    obtain ⟨cause, rfl⟩ :=
      Line.exists_cause_of_parse (Line.scan_eq_ok_iff.mpr htokens) hearlier
    have hascending := Line.ascending_ofSource script
    rw [hlines, List.pairwise_append] at hascending
    use earlier.number, cause
    constructor
    · apply hascending.2.2 earlier hmem line List.mem_cons_self
    · apply Except.mapM_append_of_error hbefore

/-- To show the tokens of `script` by `Outcome.ofTokens` fails exactly if some line that is not
blank cannot be scanned.  Then the error is that of a `FirstFault`, and one line has been shown for
each line before it.  If `Program.parse` fails because of the scanner, then `Outcome.ofTokens` fails
with the same error, and if `Outcome.ofTokens` does not fail, then the scanner does not stand in the
way of reading.  If `Outcome.ofTokens` fails because of a certain line, then `Program.parse` fails
because of the same line, or because the grammar refuses an earlier one. -/
theorem ofTokens_agrees_with_parse (script : String) :
  ((∃ error, (ofTokens script).result = .error error)
    ↔ ∃ line ∈ Line.ofSource script, ∃ fault, tokenize line.text = .error fault)
  ∧ (∀ error, (ofTokens script).result = .error error →
    ∃ first : FirstFault script, error = .scan first.line.number first.fault
      ∧ lines (ofTokens script).output = first.before.map Line.shown)
  ∧ (∀ number fault, Program.parse script = .error (.scan number fault) →
    (ofTokens script).result = .error (.scan number fault))
  ∧ ((ofTokens script).result = .ok () →
    ∀ number fault, Program.parse script ≠ .error (.scan number fault))
  ∧ ∀ number fault, (ofTokens script).result = .error (.scan number fault) →
    Program.parse script = .error (.scan number fault)
      ∨ ∃ earlier cause, earlier < number ∧ Program.parse script = .error (.parse earlier cause)
  := by
  refine ⟨?_, ?_, ?_, ?_, ?_⟩
  · constructor
    · rintro ⟨error, herror⟩
      obtain ⟨first, -, -⟩ := exists_firstFault herror
      rw [first.lines_eq]
      use first.line, List.mem_append_right _ List.mem_cons_self, first.fault, first.refused
    · rintro ⟨line, hmem, fault, hfault⟩
      apply exists_error_of_fault hmem hfault
  · intro error herror
    apply exists_firstFault herror
  · intro number fault hparse
    apply result_of_parse_scan hparse
  · intro hok number fault hparse
    rw [result_of_parse_scan hparse] at hok
    cases hok
  · intro number fault herror
    apply parse_of_result herror

/-- The script `foreign` has a foreign character on its third line, `refused` is refused by the
grammar one line before that, and the third script can be scanned. -/
theorem ofTokens_agrees_with_parse_third_line :
  let foreign := "x = 1\n\ny = #"
  let refused := "x = 1\n)\ny = #"
  (Program.parse foreign = .error (.scan 3 ⟨'#', 4⟩)
    ∧ (ofTokens foreign).result = .error (.scan 3 ⟨'#', 4⟩)
    ∧ (ofTokens foreign).output = "1: IDENTIFIER 'x' EQUALS '=' NUMBER '1'\n"
    ∧ ∃ first : FirstFault foreign, first.line.number = 3
      ∧ lines (ofTokens foreign).output = first.before.map Line.shown)
  ∧ ((ofTokens refused).result = .error (.scan 3 ⟨'#', 4⟩)
    ∧ ∃ earlier cause, earlier < 3 ∧ Program.parse refused = .error (.parse earlier cause))
  ∧ ((ofTokens ")").result = .ok ()
    ∧ ∀ number fault, Program.parse ")" ≠ .error (.scan number fault))
  := by
  intro foreign refused
  have hforeign : Program.parse foreign = .error (.scan 3 ⟨'#', 4⟩) := by decide
  have hrefused : (ofTokens refused).result = .error (.scan 3 ⟨'#', 4⟩) := by decide
  have hok : (ofTokens ")").result = .ok () := by decide
  obtain ⟨-, hfirst, hscan, -, -⟩ := ofTokens_agrees_with_parse foreign
  obtain ⟨-, -, -, -, hparse⟩ := ofTokens_agrees_with_parse refused
  obtain ⟨-, -, -, hnever, -⟩ := ofTokens_agrees_with_parse ")"
  have hresult := hscan _ _ hforeign
  obtain ⟨first, herror, houtput⟩ := hfirst _ hresult
  refine ⟨⟨hforeign, hresult, ?_, ?_⟩, ⟨hrefused, ?_⟩, hok, hnever hok⟩
  · decide
  · use first, (Error.scan.inj herror).1.symm
  · apply (hparse _ _ hrefused).resolve_left
    decide

end Outcome

end IntScript
