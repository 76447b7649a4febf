import IntScript.Proofs.CommandLine.Tokens
import IntScript.Proofs.Text.Pieces

/-!
# Shown tokens determine the program

What is shown of the tokens of a script says all about it that matters to reading it.  Two scripts
of which the same is shown, without a fault, are read as the same program, or are refused with the
same error (`Outcome.output_ofTokens_determines_parse`).

The text can be taken apart again because it is made of pieces whose ends are marked by characters
that the pieces do not contain: a number ends at a colon, the name of a kind at a space, and the
text of a token at an apostrophe.
-/

namespace IntScript

/-! ### Descriptions -/

/-- Two kinds with the same `Kind.name` are equal. -/
theorem Kind.name_inj {a b : Kind} (h : a.name = b.name) :
  a = b
  := by
  cases a <;> cases b <;> simp [name] at h ⊢

namespace Token

/-- The characters of `token.description ++ rest` are the name of a kind up to a space, a text
between apostrophes, and `rest`. -/
theorem toList_description_append (token : Token) (rest : String) :
  (token.description ++ rest).toList
    = token.kind.name.toList ++ ' ' :: '\x27' :: (token.text.toList ++ '\x27' :: rest.toList)
  := by
  simp [description]

/-- The text of a `token` that is well-formed contains no apostrophe. -/
theorem apostrophe_not_mem_text {token : Token} (h : token.isWellFormed) :
  '\x27' ∉ token.text.toList
  := by
  obtain ⟨kind, text⟩ := token
  cases kind with
  | number =>
    intro hmem
    cases isAlphanum_of_mem_text (.inl rfl) h hmem
  | identifier =>
    intro hmem
    cases isAlphanum_of_mem_text (.inr rfl) h hmem
  | _ =>
    cases of_decide_eq_true h
    decide

/-- If `x` and `y` are well-formed, then their descriptions can be told from the texts `as` and `bs`
behind them. -/
theorem description_append_inj {x y : Token} {as bs : String} (hx : x.isWellFormed)
    (hy : y.isWellFormed) (h : x.description ++ as = y.description ++ bs) :
  x = y ∧ as = bs
  := by
  have hspace (kind : Kind) : ' ' ∉ kind.name.toList := by cases kind <;> decide
  have hchars := congrArg String.toList h
  rw [toList_description_append, toList_description_append] at hchars
  obtain ⟨hkind, hchars⟩ := append_cons_inj_of_not_mem (hspace x.kind) (hspace y.kind) hchars
  rw [List.cons_inj_right] at hchars
  obtain ⟨htext, hrest⟩ :=
    append_cons_inj_of_not_mem (apostrophe_not_mem_text hx) (apostrophe_not_mem_text hy) hchars
  obtain ⟨xkind, xtext⟩ := x
  obtain ⟨ykind, ytext⟩ := y
  obtain rfl := Kind.name_inj (String.toList_injective hkind)
  obtain rfl := String.toList_injective htext
  exact ⟨rfl, String.toList_injective hrest⟩

/-- The descriptions of well-formed tokens, each with a space in front, determine the tokens. -/
theorem join_descriptions_inj {xs ys : List Token} (hxs : ∀ token ∈ xs, token.isWellFormed)
    (hys : ∀ token ∈ ys, token.isWellFormed)
    (h : String.join ((xs.map description).map (" " ++ ·))
      = String.join ((ys.map description).map (" " ++ ·))) :
  xs = ys
  := by
  induction xs generalizing ys with
  | nil =>
    cases ys with
    | nil => rfl
    | cons y ys => simp at h
  | cons x xs ih =>
    cases ys with
    | nil => simp at h
    | cons y ys =>
      rw [List.forall_mem_cons] at hxs hys
      simp only [List.map_cons, String.join_cons, String.append_assoc, String.append_right_inj]
        at h
      obtain ⟨rfl, hrest⟩ := description_append_inj hxs.1 hys.1 h
      rw [ih hxs.2 hys.2 hrest]

/-- The descriptions of well-formed tokens, with spaces in between, determine the tokens. -/
theorem intercalate_descriptions_inj {xs ys : List Token}
    (hxs : ∀ token ∈ xs, token.isWellFormed) (hys : ∀ token ∈ ys, token.isWellFormed)
    (h : " ".intercalate (xs.map description) = " ".intercalate (ys.map description)) :
  xs = ys
  := by
  have hne (token : Token) (rest : List String) :
      " ".intercalate (token.description :: rest) ≠ "" := by
    rw [intercalate_cons]
    intro hempty
    have hchars := token.toList_description_append (String.join (rest.map (" " ++ ·)))
    simp [hempty] at hchars
  cases xs with
  | nil =>
    cases ys with
    | nil => rfl
    | cons y ys => cases hne y _ h.symm
  | cons x xs =>
    cases ys with
    | nil => cases hne x _ h
    | cons y ys =>
      rw [List.forall_mem_cons] at hxs hys
      rw [List.map_cons, List.map_cons, intercalate_cons, intercalate_cons] at h
      obtain ⟨rfl, hrest⟩ := description_append_inj hxs.1 hys.1 h
      rw [join_descriptions_inj hxs.2 hys.2 hrest]

end Token

/-! ### Lines -/

namespace Line

variable {a b : Line}

/-- What `Line.shown` shows of a line determines its number and its tokens. -/
theorem shown_inj (h : a.shown = b.shown) :
  a.number = b.number ∧ (IntScript.scan a.text).tokens = (IntScript.scan b.text).tokens
  := by
  have hcolon (n : Nat) : ':' ∉ (Decimal.text n).toList := by
    intro hmem
    cases Decimal.isDigit_of_mem_text hmem
  have hchars (line : Line) : line.shown.toList
      = (Decimal.text line.number).toList ++ ':' :: ' '
        :: (" ".intercalate ((IntScript.scan line.text).tokens.map Token.description)).toList := by
    simp [shown]
  have hlists := congrArg String.toList h
  rw [hchars, hchars] at hlists
  obtain ⟨hnumber, hlists⟩ := append_cons_inj_of_not_mem (hcolon _) (hcolon _) hlists
  rw [List.cons_inj_right] at hlists
  constructor
  · apply Decimal.text_natCast_inj (String.toList_injective hnumber)
  · apply Token.intercalate_descriptions_inj
    · intro token hmem
      apply Scan.isWellFormed_of_mem_tokens hmem
    · intro token hmem
      apply Scan.isWellFormed_of_mem_tokens hmem
    · apply String.toList_injective hlists

/-- If `line` can be scanned, then `Line.parse` depends on its number and its tokens alone. -/
theorem parse_of_scan {line : Line} {tokens : List Token} (h : line.scan.result = .ok tokens) :
  line.parse
    = (Statement.parse (IntScript.scan line.text).tokens).mapError (Error.parse line.number)
  := by
  rw [parse_eq_bind, h, tokens_of_tokenize (scan_eq_ok_iff.mp h)]
  rfl

/-- If the lines in `as` and `bs` can be scanned and `Line.shown` shows the same of them, then they
are parsed alike. -/
theorem map_parse_of_map_shown {as bs : List Line}
    (has : ∀ line ∈ as, ∃ tokens, line.scan.result = .ok tokens)
    (hbs : ∀ line ∈ bs, ∃ tokens, line.scan.result = .ok tokens)
    (h : as.map shown = bs.map shown) :
  as.map parse = bs.map parse
  := by
  induction as generalizing bs with
  | nil =>
    cases bs with
    | nil => rfl
    | cons b bs => cases h
  | cons a as ih =>
    cases bs with
    | nil => cases h
    | cons b bs =>
      rw [List.forall_mem_cons] at has hbs
      obtain ⟨⟨tokens, ha⟩, has⟩ := has
      obtain ⟨⟨tokens', hb⟩, hbs⟩ := hbs
      obtain ⟨hshown, hrest⟩ := List.cons.inj h
      obtain ⟨hnumber, htokens⟩ := shown_inj hshown
      rw [List.map_cons, List.map_cons, ih has hbs hrest, parse_of_scan ha, parse_of_scan hb,
        hnumber, htokens]

end Line

/-! ### Scripts -/

namespace Outcome

variable {a b script : String}

/-- If `Outcome.ofTokens script` does not fail, then all lines of `script` can be scanned, and the
lines of its output are `Line.shown` of each of them. -/
theorem lines_output_of_ok (h : (ofTokens script).result = .ok ()) :
  (∀ line ∈ Line.ofSource script, ∃ tokens, line.scan.result = .ok tokens)
    ∧ lines (ofTokens script).output = (Line.ofSource script).map Line.shown
  := by
  rw [ofTokens, result_ofTokenLines] at h
  obtain ⟨tokens, hok, -⟩ := Except.map_eq_ok_iff.mp h
  have hscanned := Except.exists_mapM_eq_ok_iff.mp ⟨tokens, hok⟩
  use hscanned
  have houtput := output_ofTokenLines_append [] hscanned
  have hlast : (ofTokenLines []).output = "" := rfl
  rw [List.append_nil, hlast, String.append_empty] at houtput
  rw [ofTokens, houtput, Line.lines_join_shown]

/-- If `Outcome.ofTokens script` does not fail, then `Program.parse` can only fail because of the
grammar. -/
theorem exists_cause_of_ok {error : Error} (h : (ofTokens script).result = .ok ())
    (hparse : Program.parse script = .error error) :
  ∃ number cause, error = .parse number cause
  := by
  cases error with
  | scan number fault =>
    rw [result_of_parse_scan hparse] at h
    cases h
  | parse number cause => use number, cause
  | runtime cause =>
    obtain ⟨line, -, hline⟩ := Program.exists_line_of_parse hparse
    cases hline

/-- If `Outcome.ofTokens` does not fail and has the same output for the scripts `a` and `b`, then
`Program.parse` has the same result for both, be it a program or an error, which then comes from the
grammar. -/
theorem output_ofTokens_determines_parse (ha : (ofTokens a).result = .ok ())
    (hb : (ofTokens b).result = .ok ()) (h : (ofTokens a).output = (ofTokens b).output) :
  Program.parse a = Program.parse b
    ∧ ∀ error, Program.parse a = .error error → ∃ number cause, error = .parse number cause
  := by
  obtain ⟨hscanned, hlines⟩ := lines_output_of_ok ha
  obtain ⟨hscanned', hlines'⟩ := lines_output_of_ok hb
  have hshown : (Line.ofSource a).map Line.shown = (Line.ofSource b).map Line.shown := by
    rw [← hlines, ← hlines', h]
  have hparse := Line.map_parse_of_map_shown hscanned hscanned' hshown
  have hmapM (lines : List Line) : lines.mapM Line.parse = (lines.map Line.parse).mapM id := by
    rw [List.mapM_map]
    rfl
  constructor
  · rw [Program.parse_eq_mapM, Program.parse_eq_mapM, hmapM, hmapM, hparse]
  · intro error herror
    apply exists_cause_of_ok ha herror

/-- The scripts `wide` and `narrow` differ in their spaces, in their line ends and in their blank
lines, and are read as the same program; `wideError` and `narrowError` are refused at their second
line. -/
theorem output_ofTokens_determines_parse_despite_spaces :
  let wide := "\t\r\nx = 7"
  let narrow := "\nx=7\n \n"
  let wideError := "\u2003\nprint ( 2 x )\r\n"
  let narrowError := "\nprint(2x)"
  ((ofTokens wide).result = .ok () ∧ (ofTokens narrow).result = .ok ()
    ∧ (ofTokens wide).output = (ofTokens narrow).output
    ∧ Program.parse wide = Program.parse narrow)
  ∧ ((ofTokens wideError).result = .ok () ∧ (ofTokens narrowError).result = .ok ()
    ∧ (ofTokens wideError).output = (ofTokens narrowError).output
    ∧ Program.parse wideError = Program.parse narrowError
    ∧ Program.parse narrowError = .error (.parse 2 (.trailingTokens ⟨.identifier, "x"⟩)))
  := by
  intro wide narrow wideError narrowError
  have hwide : (ofTokens wide).result = .ok () := by decide
  have hnarrow : (ofTokens narrow).result = .ok () := by decide
  have houtput : (ofTokens wide).output = (ofTokens narrow).output := by decide +kernel
  have hwide' : (ofTokens wideError).result = .ok () := by decide
  have hnarrow' : (ofTokens narrowError).result = .ok () := by decide
  have houtput' : (ofTokens wideError).output = (ofTokens narrowError).output := by
    decide +kernel
  refine ⟨⟨hwide, hnarrow, houtput, ?_⟩, hwide', hnarrow', houtput', ?_, ?_⟩
  · apply (output_ofTokens_determines_parse hwide hnarrow houtput).1
  · apply (output_ofTokens_determines_parse hwide' hnarrow' houtput').1
  · decide

end Outcome

end IntScript
