import IntScript.Proofs.Source.Concatenation
import IntScript.Run

/-!
# Terminators

It does not matter how the lines of a source are terminated.  Each line may be ended by a line feed
or by a carriage return and a line feed, whatever ends the others, and the last line need not be
ended at all: the same lines are read, under the same numbers (`Line.ofSource_of_writes`).  Hence
the source is the same program, or is refused at the same place, and it runs alike
(`terminators_do_not_matter`).

An empty last line that is not terminated is not there at all; but it is blank, and no line comes
after it that would be counted differently.
-/

namespace IntScript

/-- The source consists of the `bodies` of lines, each of them terminated, except that the last need
not be. -/
inductive Writes : List String → String → Prop where
  | nothing : Writes [] ""
  | unterminated (body : String) : Writes [body] body
  | terminated {bodies : List String} {source : String} (body : String) (terminator : Terminator)
      (rest : Writes bodies source) :
      Writes (body :: bodies) (body ++ terminator.text ++ source)

/-- If `source` writes `bodies`, then these are its lines, up to an empty last one that is not
terminated. -/
theorem Writes.lines_cases {bodies : List String} {source : String} (h : Writes bodies source)
    (hbodies : ∀ body ∈ bodies, IsBody body) :
  bodies = lines source ∨ bodies = lines source ++ [""]
  := by
  induction h with
  | nothing =>
    left
    rfl
  | unterminated body =>
    obtain ⟨⟨hfeed, -⟩, -⟩ := List.forall_mem_cons.mp hbodies
    by_cases hempty : body = ""
    · right
      rw [hempty]
      rfl
    · left
      rw [lines_unterminated hempty hfeed]
  | terminated body terminator _ ih =>
    obtain ⟨hbody, hbodies⟩ := List.forall_mem_cons.mp hbodies
    rw [lines_append_terminator terminator _ hbody, List.cons_append, List.cons.injEq,
      List.cons.injEq]
    simpa using ih hbodies

/-- If `source` writes `bodies`, then its lines that are not blank, and their numbers, are those of
the bodies. -/
theorem Line.ofSource_of_writes {bodies : List String} {source : String}
    (h : Writes bodies source) (hbodies : ∀ body ∈ bodies, IsBody body) :
  ofSource source = ofTexts bodies
  := by
  rw [ofSource_eq_ofTexts]
  rcases h.lines_cases hbodies with hlines | hlines
  · rw [← hlines]
  · rw [hlines, ofTexts_append_blank _ (by decide)]

/-- If `a` and `b` write the same `bodies`, then `Program.parse` gives the same program for both, or
the same error, and `run` does the same, whatever the `room` for the output. -/
theorem terminators_do_not_matter {bodies : List String} {a b : String}
    (hbodies : ∀ body ∈ bodies, IsBody body) (ha : Writes bodies a) (hb : Writes bodies b) :
  Program.parse a = Program.parse b ∧ ∀ room, run a room = run b room
  := by
  have hlines : Line.ofSource a = Line.ofSource b := by
    rw [Line.ofSource_of_writes ha hbodies, Line.ofSource_of_writes hb hbodies]
  have hread : Program.read a = Program.read b := by
    rw [Program.read, Program.read, hlines]
  constructor
  · rw [Program.parse, Program.parse, hread]
  · intro room
    rw [run, run, hread]

/-- The bodies in `good` are an assignment, an empty line, a print and another empty line; the third
one in `bad` has a carriage return in its middle. -/
theorem terminators_do_not_matter_between_blank_lines :
  let good := ["x = 2", "", "print(x)", ""]
  let bad := ["x = 2", "", "a\rb"]
  let program : Program := [.assign "x" (.num 2), .print (some (.name "x"))]
  ((∀ body ∈ good, IsBody body)
    ∧ (Writes good "x = 2\r\n\nprint(x)\n" ∧ Writes good "x = 2\n\r\nprint(x)\r\n\n")
    ∧ Program.parse "x = 2\r\n\nprint(x)\n" = .ok program
    ∧ Program.parse "x = 2\n\r\nprint(x)\r\n\n" = .ok program
    ∧ (run "x = 2\n\r\nprint(x)\r\n\n" none).output = "2\n")
  ∧ (∀ body ∈ bad, IsBody body)
    ∧ (Writes bad "x = 2\r\n\na\rb\n" ∧ Writes bad "x = 2\n\r\na\rb")
    ∧ Program.parse "x = 2\r\n\na\rb\n" = .error (.scan 3 ⟨'\r', 1⟩)
    ∧ Program.parse "x = 2\n\r\na\rb" = .error (.scan 3 ⟨'\r', 1⟩)
  := by
  intro good bad program
  have hgood : ∀ body ∈ good, IsBody body := by decide
  have hbad : ∀ body ∈ bad, IsBody body := by decide
  have hopen : Writes good "x = 2\r\n\nprint(x)\n" :=
    .terminated "x = 2" .returnFeed (.terminated "" .feed (.terminated "print(x)" .feed
      (.unterminated "")))
  have hclosed : Writes good "x = 2\n\r\nprint(x)\r\n\n" :=
    .terminated "x = 2" .feed (.terminated "" .returnFeed (.terminated "print(x)" .returnFeed
      (.terminated "" .feed .nothing)))
  have hclosed' : Writes bad "x = 2\r\n\na\rb\n" :=
    .terminated "x = 2" .returnFeed (.terminated "" .feed (.terminated "a\rb" .feed .nothing))
  have hopen' : Writes bad "x = 2\n\r\na\rb" :=
    .terminated "x = 2" .feed (.terminated "" .returnFeed (.unterminated "a\rb"))
  have hprogram : Program.parse "x = 2\r\n\nprint(x)\n" = .ok program := by decide
  have herror : Program.parse "x = 2\r\n\na\rb\n" = .error (.scan 3 ⟨'\r', 1⟩) := by decide
  have houtput : (run "x = 2\r\n\nprint(x)\n" none).output = "2\n" := by decide
  obtain ⟨hparse, hrun⟩ := terminators_do_not_matter hgood hopen hclosed
  obtain ⟨hrefused, -⟩ := terminators_do_not_matter hbad hclosed' hopen'
  rw [hprogram] at hparse
  rw [herror] at hrefused
  rw [hrun] at houtput
  exact ⟨⟨hgood, ⟨hopen, hclosed⟩, hprogram, hparse.symm, houtput⟩, hbad, ⟨hclosed', hopen'⟩,
    herror, hrefused.symm⟩

end IntScript
