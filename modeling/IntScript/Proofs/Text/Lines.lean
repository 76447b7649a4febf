import IntScript.Text.Lines
import Mathlib.Data.List.Basic

/-!
# Lines one at a time

How a text is divided into lines when it begins with a line that is known, whichever terminator
ends that line, and how its lines change when it is continued behind a line feed: the lines that
follow are added, and only the last line before them is affected, which loses a carriage return at
its end.
-/

namespace IntScript

/-- If `c` does not begin a terminator, then it belongs to the first line. -/
theorem linesOfChars_cons {c : Char} {rest line : List Char} {lines : List (List Char)}
    (hfeed : c ≠ '\n') (hreturn : c = '\r' → rest.head? ≠ some '\n')
    (hrest : linesOfChars rest = line :: lines) :
  linesOfChars (c :: rest) = (c :: line) :: lines
  := by
  rw [linesOfChars, hrest]
  · apply hfeed
  · rintro tail rfl rfl
    apply hreturn rfl rfl

/-- Characters without a line feed are put in front of the `first` line that follows. -/
theorem linesOfChars_append_line {line rest first : List Char} {later : List (List Char)}
    (hfeed : '\n' ∉ line) (hreturn : line.getLast? = some '\r' → rest.head? ≠ some '\n')
    (hrest : linesOfChars rest = first :: later) :
  linesOfChars (line ++ rest) = (line ++ first) :: later
  := by
  induction line with
  | nil => apply hrest
  | cons c line ih =>
    rw [List.mem_cons, not_or] at hfeed
    obtain ⟨hc, hfeed⟩ := hfeed
    apply linesOfChars_cons (Ne.symm hc)
    · rintro rfl
      cases line with
      | nil => apply hreturn rfl
      | cons d line =>
        intro hd
        apply hfeed
        cases hd
        apply List.mem_cons_self
    · apply ih hfeed
      intro hlast
      apply hreturn
      rw [List.getLast?_cons, hlast]
      rfl

/-- A line feed ends a `line` that does not itself end in a carriage return. -/
theorem linesOfChars_append_feed {line : List Char} (rest : List Char) (hfeed : '\n' ∉ line)
    (hreturn : line.getLast? ≠ some '\r') :
  linesOfChars (line ++ '\n' :: rest) = line :: linesOfChars rest
  := by
  have hempty : linesOfChars ('\n' :: rest) = [] :: linesOfChars rest := rfl
  rw [linesOfChars_append_line hfeed (absurd · hreturn) hempty, List.append_nil]

/-- A carriage return in front of a line feed does not belong to the `line`. -/
theorem linesOfChars_append_return {line : List Char} (rest : List Char) (hfeed : '\n' ∉ line) :
  linesOfChars (line ++ '\r' :: '\n' :: rest) = line :: linesOfChars rest
  := by
  have hempty : linesOfChars ('\r' :: '\n' :: rest) = [] :: linesOfChars rest := rfl
  rw [linesOfChars_append_line hfeed (by simp) hempty, List.append_nil]

/-! ### Terminators -/

/-- What ends a line: a line feed, alone or behind a carriage return. -/
inductive Terminator where
  | feed
  | returnFeed
deriving DecidableEq

/-- The text of a terminator. -/
def Terminator.text : Terminator → String
  | feed => "\n"
  | returnFeed => "\r\n"

/-- The `text` can be told from its terminator: it has no line feeds, and no carriage return at its
end. -/
def IsBody (text : String) : Prop :=
  '\n' ∉ text.toList ∧ text.toList.getLast? ≠ some '\r'

instance (text : String) : Decidable (IsBody text) :=
  inferInstanceAs (Decidable (_ ∧ _))

/-- A `body` is a line of its own whatever `terminator` ends it. -/
theorem lines_append_terminator {body : String} (terminator : Terminator) (rest : String)
    (h : IsBody body) :
  lines (body ++ terminator.text ++ rest) = body :: lines rest
  := by
  have hchars : linesOfChars (body ++ terminator.text ++ rest).toList
      = body.toList :: linesOfChars rest.toList := by
    rw [String.toList_append, String.toList_append, List.append_assoc]
    cases terminator with
    | feed => apply linesOfChars_append_feed rest.toList h.1 h.2
    | returnFeed => apply linesOfChars_append_return rest.toList h.1
  rw [lines, hchars, List.map_cons, String.ofList_toList]
  rfl

/-! ### Unbroken texts -/

/-- There are neither line feeds nor carriage returns in `text`. -/
def Unbroken (text : String) : Prop :=
  ∀ c ∈ text.toList, c ≠ '\n' ∧ c ≠ '\r'

instance (text : String) : Decidable (Unbroken text) :=
  List.decidableBAll _ text.toList

/-- If `a` and `b` are unbroken, then so is `a ++ b`. -/
theorem Unbroken.append {a b : String} (ha : Unbroken a) (hb : Unbroken b) :
  Unbroken (a ++ b)
  := by
  intro c hc
  rw [String.toList_append] at hc
  rcases List.mem_append.mp hc with hc | hc
  · apply ha c hc
  · apply hb c hc

/-- If there are only letters and digits in `text`, then it is unbroken. -/
theorem unbroken_of_isAlphanum {text : String} (h : ∀ c ∈ text.toList, c.isAlphanum) :
  Unbroken text
  := by
  intro c hc
  constructor
  · rintro rfl
    cases h _ hc
  · rintro rfl
    cases h _ hc

/-- If `text` is unbroken, then it can be told from its terminator. -/
theorem Unbroken.isBody {text : String} (h : Unbroken text) :
  IsBody text
  := by
  constructor
  · intro hmem
    apply (h _ hmem).1 rfl
  · intro hlast
    apply (h _ (List.mem_of_getLast? hlast)).2 rfl

/-- If `line` is unbroken, then it is a line when a line feed ends it. -/
theorem lines_append_feed {line : String} (rest : String) (h : Unbroken line) :
  lines (line ++ "\n" ++ rest) = line :: lines rest
  := lines_append_terminator .feed rest h.isBody

/-! ### Line feeds -/

/-- The `line` without the carriage return at its end. -/
def chomp (line : List Char) : List Char :=
  if line.getLast? = some '\r' then line.dropLast else line

/-- A line feed ends a `line`, which loses the carriage return at its end. -/
theorem linesOfChars_feed {line : List Char} (rest : List Char) (hfeed : '\n' ∉ line) :
  linesOfChars (line ++ '\n' :: rest) = chomp line :: linesOfChars rest
  := by
  unfold chomp
  split
  next hreturn =>
    have hline := List.dropLast_append_getLast? '\r' hreturn
    nth_rewrite 1 [← hline]
    rw [List.append_assoc]
    apply linesOfChars_append_return
    intro hmem
    apply hfeed (List.dropLast_subset line hmem)
  next hreturn => apply linesOfChars_append_feed rest hfeed hreturn

/-- The last `line` need not be terminated, unless it is empty. -/
theorem linesOfChars_unterminated {line : List Char} (hne : line ≠ []) (hfeed : '\n' ∉ line) :
  linesOfChars line = [line]
  := by
  have hlast : line.getLast hne ≠ '\n' := by
    intro hlast
    apply hfeed
    rw [← hlast]
    apply List.getLast_mem
  have hsingle : linesOfChars [line.getLast hne] = [[line.getLast hne]] := by
    rw [linesOfChars]
    · rfl
    · apply hlast
    · rintro tail - ⟨⟩
  nth_rewrite 1 [← List.dropLast_append_getLast hne]
  rw [linesOfChars_append_line _ _ hsingle, List.dropLast_append_getLast]
  · intro hmem
    apply hfeed (List.dropLast_subset line hmem)
  · intro _ hhead
    apply hlast (Option.some.inj hhead)

/-- Induction over the lines of a text: the last one, and those ended by a line feed. -/
theorem lines_induction {motive : List Char → Prop} (chars : List Char)
    (last : ∀ line, '\n' ∉ line → motive line)
    (feed : ∀ line rest, '\n' ∉ line → motive rest → motive (line ++ '\n' :: rest)) :
  motive chars
  := by
  by_cases hmem : '\n' ∈ chars
  · obtain ⟨line, rest, hchars, hline⟩ := List.eq_append_cons_of_mem hmem
    have hshorter : rest.length < chars.length := by
      rw [hchars, List.length_append, List.length_cons]
      omega
    rw [hchars]
    apply feed line rest hline (lines_induction rest last feed)
  · apply last chars hmem
termination_by chars.length

theorem linesOfChars_append (a b : List Char) :
  linesOfChars (a ++ '\n' :: b) = linesOfChars (a ++ ['\n']) ++ linesOfChars b
  := by
  induction a using lines_induction with
  | last line hline =>
    rw [linesOfChars_feed b hline, linesOfChars_feed [] hline]
    rfl
  | feed line rest hline ih =>
    rw [List.append_assoc, List.append_assoc, List.cons_append, List.cons_append,
      linesOfChars_feed _ hline, linesOfChars_feed _ hline, ih, List.cons_append]

theorem length_linesOfChars_feed (a : List Char) :
  (linesOfChars (a ++ ['\n'])).length = a.count '\n' + 1
  := by
  induction a using lines_induction with
  | last line hline =>
    rw [linesOfChars_feed [] hline, List.count_eq_zero.mpr hline]
    rfl
  | feed line rest hline ih =>
    rw [List.append_assoc, List.cons_append, linesOfChars_feed _ hline, List.length_cons, ih,
      List.count_append, List.count_eq_zero.mpr hline, List.count_cons_self, Nat.zero_add]

/-- A line feed behind `text` ends an empty line, or the last line as it is, or the last line
without its carriage return. -/
theorem linesOfChars_feed_cases (text : List Char) :
  ∃ front tail last, linesOfChars text = front ++ tail
    ∧ linesOfChars (text ++ ['\n']) = front ++ [last]
    ∧ ((tail = [] ∧ last = []) ∨ tail = [last]
      ∨ (tail = [last ++ ['\r']] ∧ text.getLast? = some '\r'))
  := by
  induction text using lines_induction with
  | last line hline =>
    use [], linesOfChars line, chomp line, rfl, linesOfChars_feed [] hline
    by_cases hne : line = []
    · left
      rw [hne]
      exact ⟨rfl, rfl⟩
    · right
      rw [linesOfChars_unterminated hne hline, chomp]
      split
      next hreturn =>
        right
        rw [List.dropLast_append_getLast? '\r' hreturn]
        exact ⟨rfl, hreturn⟩
      next =>
        left
        rfl
  | feed line rest hline ih =>
    obtain ⟨front, tail, last, hopen, hclosed, hcases⟩ := ih
    use chomp line :: front, tail, last
    refine ⟨?_, ?_, ?_⟩
    · rw [linesOfChars_feed rest hline, hopen, List.cons_append]
    · rw [List.append_assoc, List.cons_append, linesOfChars_feed _ hline, hclosed, List.cons_append]
    · rcases hcases with hempty | hsame | ⟨htail, hreturn⟩
      · left
        apply hempty
      · right
        left
        apply hsame
      · right
        right
        rw [List.getLast?_append, List.getLast?_cons, hreturn]
        use htail
        rfl

/-- The lines of `a`, a line feed and `b` are those of `a` and the line feed, and those of `b`. -/
theorem lines_append (a b : String) :
  lines (a ++ "\n" ++ b) = lines (a ++ "\n") ++ lines b
  := by
  have hchars := linesOfChars_append a.toList b.toList
  simp [lines, hchars]

/-- If a line feed ends `a`, then there are as many lines as line feeds. -/
theorem length_lines_feed (a : String) :
  (lines (a ++ "\n")).length = a.toList.count '\n' + 1
  := by
  have hchars := length_linesOfChars_feed a.toList
  simp [lines, hchars]

/-- If `line` is not empty and has no line feeds, then it is a line on its own. -/
theorem lines_unterminated {line : String} (hne : line ≠ "") (hfeed : '\n' ∉ line.toList) :
  lines line = [line]
  := by
  have hchars : line.toList ≠ [] := by simpa using hne
  rw [lines, linesOfChars_unterminated hchars hfeed, List.map_singleton, String.ofList_toList]

end IntScript
