import IntScript.Proofs.Source
import IntScript.Proofs.Text.Lines
import IntScript.Proofs.Token.Concatenation

/-!
# Reading a concatenation

Two sources with a line feed between them are read one after the other, and the lines of the second
are counted on from those of the first (`Program.parse_append_feed`).

A first source that ends in a carriage return needs care, as the carriage return becomes part of
the terminator.  If the first source can be read, this does not matter: a carriage return is foreign
to the language, so the line it ends is blank.
-/

namespace IntScript

/-- An error that is found `n` lines further down. -/
def Error.later (n : Nat) : Error → Error
  | scan line cause => scan (line + n) cause
  | parse line cause => parse (line + n) cause
  | runtime cause => runtime cause

namespace Line

/-! ### Lines further down -/

/-- The `line`, standing `n` lines further down. -/
def later (n : Nat) (line : Line) : Line :=
  { line with number := line.number + n }

/-- A `line` that stands `n` lines further down is parsed as before, with an error further down. -/
theorem parse_later (n : Nat) (line : Line) :
  (line.later n).parse = line.parse.mapError (Error.later n)
  := by
  rw [parse_eq, parse_eq, Except.mapError_bind, Except.mapError_mapError]
  simp only [Except.mapError_mapError]
  rfl

/-- The lines with the given `texts`, those of them that are not blank. -/
def ofTexts (texts : List String) : List Line :=
  (texts.mapIdx fun index text => ⟨index + 1, text⟩).filter fun line => !isBlank line.text

/-- The lines of `source` that are not blank are determined by the texts of all its lines. -/
theorem ofSource_eq_ofTexts (source : String) :
  ofSource source = ofTexts (lines source)
  := rfl

theorem ofTexts_append (ts us : List String) :
  ofTexts (ts ++ us) = ofTexts ts ++ (ofTexts us).map (later ts.length)
  := by
  have hnumbers : (us.mapIdx fun index text => (⟨index + ts.length + 1, text⟩ : Line))
      = (us.mapIdx fun index text => ⟨index + 1, text⟩).map (later ts.length) := by
    apply List.ext_getElem
    · simp
    · intro i hi hi'
      rw [List.getElem_map, List.getElem_mapIdx, List.getElem_mapIdx, later, Nat.add_right_comm]
  rw [ofTexts, List.mapIdx_append, hnumbers, List.filter_append, List.filter_map]
  rfl

/-- If `text` is blank, then it may be left out at the end. -/
theorem ofTexts_append_blank (texts : List String) {text : String} (h : isBlank text) :
  ofTexts (texts ++ [text]) = ofTexts texts
  := by
  have hblank : ofTexts [text] = [] := by simp [ofTexts, h]
  rw [ofTexts_append, hblank, List.map_nil, List.append_nil]

/-! ### Sources one after the other -/

/-- The lines of `a`, a line feed and `b` are those of `a` and the line feed, and those of `b`
further down. -/
theorem ofSource_append (a b : String) :
  ofSource (a ++ "\n" ++ b)
    = ofSource (a ++ "\n") ++ (ofSource b).map (later (a.toList.count '\n' + 1))
  := by
  rw [ofSource_eq_ofTexts, lines_append, ofTexts_append, length_lines_feed]
  rfl

/-- A line feed behind `source` does not matter, unless it takes away a carriage return that makes a
line of `source` one that is not blank. -/
theorem ofSource_append_feed {source : String}
    (h : source.toList.getLast? = some '\r' →
      ∀ text, text ++ "\r" ∈ lines source → isBlank (text ++ "\r")) :
  ofSource (source ++ "\n") = ofSource source
  := by
  have hchars : (source ++ "\n").toList = source.toList ++ ['\n'] := by simp
  obtain ⟨front, tail, last, hopen, hclosed, hcases⟩ := linesOfChars_feed_cases source.toList
  have hafter : lines (source ++ "\n") = front.map String.ofList ++ [String.ofList last] := by
    rw [lines, hchars, hclosed, List.map_append, List.map_singleton]
  have hbefore : lines source = front.map String.ofList ++ tail.map String.ofList := by
    rw [lines, hopen, List.map_append]
  rw [ofSource_eq_ofTexts, ofSource_eq_ofTexts, hafter]
  rcases hcases with ⟨rfl, rfl⟩ | rfl | ⟨rfl, hreturn⟩
  · rw [ofTexts_append_blank _ (by decide), hbefore, List.map_nil, List.append_nil]
  · rw [hbefore, List.map_singleton]
  · rw [List.map_singleton, String.ofList_append] at hbefore
    have hblank : isBlank (String.ofList last ++ "\r") := by
      apply h hreturn
      rw [hbefore]
      apply List.mem_append_right _ List.mem_cons_self
    have hlast : isBlank (String.ofList last) := by
      rw [isBlank, String.toList_append, List.all_append, Bool.and_eq_true] at hblank
      apply hblank.1
    rw [hbefore]
    apply Eq.trans (ofTexts_append_blank _ hlast)
    symm
    apply ofTexts_append_blank _ hblank

end Line

/-- A carriage return behind `text` is foreign to the language. -/
theorem tokenize_append_return (text : String) :
  ∃ fault, tokenize (text ++ "\r") = .error fault
  := by
  rw [tokenize_append (separate_of_head (by decide))]
  cases tokenize text with
  | error fault =>
    use fault
    rfl
  | ok tokens =>
    use ⟨'\r', text.length⟩
    rfl

namespace Program

/-- If `source` is parsed, then a line of it that ends in a carriage return is blank. -/
theorem isBlank_of_parse {source text : String} {program : Program}
    (h : parse source = .ok program) (hmem : text ++ "\r" ∈ lines source) :
  isBlank (text ++ "\r")
  := by
  by_contra hblank
  obtain ⟨statement, tokens, htokens, -⟩ := exists_spells_of_parse h hmem hblank
  obtain ⟨fault, hfault⟩ := tokenize_append_return text
  rw [hfault] at htokens
  cases htokens

/-- If a line feed behind `a` does not matter, then `b` is parsed after `a`, with its errors further
down. -/
theorem parse_append {a : String} (b : String)
    (h : Line.ofSource (a ++ "\n") = Line.ofSource a) :
  parse (a ++ "\n" ++ b) = parse a >>= fun p =>
    ((parse b).mapError (Error.later (a.toList.count '\n' + 1))).map (p ++ ·)
  := by
  have hlater : Line.parse ∘ Line.later (a.toList.count '\n' + 1)
      = fun line => line.parse.mapError (Error.later (a.toList.count '\n' + 1)) := by
    funext line
    apply Line.parse_later
  rw [parse_eq_mapM, parse_eq_mapM, parse_eq_mapM, Line.ofSource_append, h, List.mapM_append,
    List.mapM_map, hlater, Except.mapM_mapError]
  rfl

/-- If `a` is parsed as `p`, then `b` behind a line feed is parsed after it, as `q` or with the
error of `b` on its own, further down by the line feeds of `a` and one more.  If `a` cannot be
parsed, and does not end in a carriage return, then its error remains. -/
theorem parse_append_feed (a b : String) :
  (∀ p, parse a = .ok p →
    (∀ q, parse b = .ok q → parse (a ++ "\n" ++ b) = .ok (p ++ q))
    ∧ ∀ error, parse b = .error error →
      parse (a ++ "\n" ++ b) = .error (error.later (a.toList.count '\n' + 1)))
  ∧ ∀ error, parse a = .error error → a.toList.getLast? ≠ some '\r' →
    parse (a ++ "\n" ++ b) = .error error
  := by
  constructor
  · intro p ha
    have hfeed : Line.ofSource (a ++ "\n") = Line.ofSource a := by
      apply Line.ofSource_append_feed
      intro _ text hmem
      apply isBlank_of_parse ha hmem
    constructor
    · intro q hb
      rw [parse_append b hfeed, ha, hb]
      rfl
    · intro error hb
      rw [parse_append b hfeed, ha, hb]
      rfl
  · intro error ha hreturn
    have hfeed : Line.ofSource (a ++ "\n") = Line.ofSource a := by
      apply Line.ofSource_append_feed
      intro hlast
      apply absurd hlast hreturn
    rw [parse_append b hfeed, ha]
    rfl

/-- The last line of `a` is a carriage return alone, and it is followed by a source that is parsed
and by one that is not.  The latter keeps its `error` in front of `a`. -/
theorem parse_append_feed_behind_return :
  let a := "x = 1\r\n\r"
  let p : Program := [.assign "x" (.num 1)]
  let q : Program := [.print (some (.name "x"))]
  let error : Error := .scan 2 ⟨'$', 6⟩
  (parse a = .ok p ∧ parse "\nprint(x)" = .ok q ∧ parse (a ++ "\n" ++ "\nprint(x)") = .ok (p ++ q))
  ∧ (parse "\nprint($" = .error error
    ∧ parse (a ++ "\n" ++ "\nprint($") = .error (.scan 4 ⟨'$', 6⟩))
  ∧ parse ("\nprint($" ++ "\n" ++ a) = .error error
  := by
  intro a p q error
  have ha : parse a = .ok p := by decide
  have hb : parse "\nprint(x)" = .ok q := by decide
  have herror : parse "\nprint($" = .error error := by decide
  have hlater : error.later (a.toList.count '\n' + 1) = .scan 4 ⟨'$', 6⟩ := by decide
  obtain ⟨hok, -⟩ := parse_append_feed a "\nprint(x)"
  obtain ⟨hfault, -⟩ := parse_append_feed a "\nprint($"
  obtain ⟨-, hfirst⟩ := parse_append_feed "\nprint($" a
  refine ⟨⟨ha, hb, (hok p ha).1 q hb⟩, ⟨herror, ?_⟩, hfirst error herror (by decide)⟩
  rw [← hlater]
  apply (hfault p ha).2 error herror

end Program

end IntScript
