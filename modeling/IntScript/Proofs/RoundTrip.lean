import IntScript.Proofs.Statement.Canonical
import IntScript.Proofs.Text.Lines

/-!
# Canonical texts are read back

The canonical text of a program is read as the program itself exactly when the program can be
written down (`Program.parse_text_eq_ok_iff`).

A program that can be written down is read back because its text is divided into the texts of its
statements, none of them blank, and each spells out its statement.  Conversely, whatever is read
from a source can be written down, because the tokens of a source are well formed.
-/

namespace IntScript

/-! ### The lines of a canonical text -/

/-- If `token` is a well-formed number or name, then its text is unbroken. -/
theorem Token.unbroken_text {token : Token}
    (hkind : token.kind = .number ∨ token.kind = .identifier) (h : token.isWellFormed) :
  Unbroken token.text
  := by
  apply unbroken_of_isAlphanum
  intro c hc
  apply isAlphanum_of_mem_text hkind h hc

/-- If `text` is unbroken, then it is so in parentheses. -/
theorem Expr.unbroken_enclose {text : String} (parenthesised : Bool) (h : Unbroken text) :
  Unbroken (enclose parenthesised text)
  := by
  cases parenthesised with
  | false => apply h
  | true =>
    have hopening : Unbroken "(" := by decide
    have hclosing : Unbroken ")" := by decide
    apply (hopening.append h).append hclosing

/-- If `expr` is representable, then its text is unbroken. -/
theorem Expr.unbroken_text {expr : Expr} (h : expr.isRepresentable) :
  Unbroken expr.text
  := by
  induction expr with
  | num value =>
    obtain ⟨n, rfl⟩ := exists_nat_of_isRepresentable h
    have hwellFormed : Token.isWellFormed ⟨.number, n.repr⟩ := Decimal.isNumeral_repr n
    apply Token.unbroken_text (.inl rfl) hwellFormed
  | name identifier =>
    have hwellFormed : Token.isWellFormed ⟨.identifier, identifier⟩ := h
    apply Token.unbroken_text (.inr rfl) hwellFormed
  | binary op left right ihleft ihright =>
    obtain ⟨hleft, hright⟩ := Bool.and_eq_true_iff.mp h
    have hspace : Unbroken " " := by decide
    have hsymbol : Unbroken op.symbol := by cases op <;> decide
    have hfirst := unbroken_enclose (left.precedence < op.precedence) (ihleft hleft)
    have hsecond := unbroken_enclose (right.precedence ≤ op.precedence) (ihright hright)
    apply (((hfirst.append hspace).append hsymbol).append hspace).append hsecond

/-- A letter or a digit is no white space. -/
theorem isWhiteSpace_of_isAlphanum {c : Char} (h : c.isAlphanum) :
  isWhiteSpace c = false
  := by
  have hrange : 48 ≤ c.toNat ∧ c.toNat ≤ 122 := by
    rcases Bool.or_eq_true_iff.mp h with hletter | hdigit
    · rw [isAlpha_iff_toNat] at hletter
      omega
    · have hdigits : 48 ≤ c.toNat ∧ c.toNat ≤ 57 := Char.isDigit_iff_toNat.mp hdigit
      omega
  simp only [isWhiteSpace, Bool.or_eq_false_iff, Bool.and_eq_false_iff, decide_eq_false_iff_not]
  omega

/-- If there is a letter `c` in `text`, then it is not blank. -/
theorem isBlank_of_mem_isAlpha {text : String} {c : Char} (hmem : c ∈ text.toList)
    (hc : c.isAlpha) :
  isBlank text = false
  := by
  apply Bool.eq_false_iff.mpr
  intro hblank
  have hspace := List.all_eq_true.mp hblank c hmem
  rw [isWhiteSpace_of_isAlphanum (isAlphanum_of_isAlpha hc)] at hspace
  cases hspace

namespace Statement

/-- If `text` is unbroken, then so is a print of it. -/
theorem unbroken_print {text : String} (h : Unbroken text) :
  Unbroken ("print(" ++ text ++ ")")
  := by
  have hopening : Unbroken "print(" := by decide
  have hclosing : Unbroken ")" := by decide
  apply (hopening.append h).append hclosing

/-- If `statement` is representable, then its text is unbroken. -/
theorem unbroken_text {statement : Statement} (h : statement.isRepresentable) :
  Unbroken statement.text
  := by
  match statement with
  | print none => decide
  | print (some value) => apply unbroken_print (Expr.unbroken_text h)
  | assign name value =>
    obtain ⟨hname, hvalue⟩ := Bool.and_eq_true_iff.mp h
    have hwellFormed : Token.isWellFormed ⟨.identifier, name⟩ := hname
    have hsign : Unbroken " = " := by decide
    have hfirst := Token.unbroken_text (.inr rfl) hwellFormed
    apply (hfirst.append hsign).append (Expr.unbroken_text hvalue)

/-- If `statement` is representable, then there is a letter in its text. -/
theorem exists_alpha_text {statement : Statement} (h : statement.isRepresentable) :
  ∃ c ∈ statement.text.toList, c.isAlpha
  := by
  match statement with
  | print none => use 'p'; decide
  | print (some value) =>
    use 'p'
    simp [text]
  | assign name value =>
    obtain ⟨hname, -⟩ := Bool.and_eq_true_iff.mp h
    have hwellFormed : Token.isWellFormed ⟨.identifier, name⟩ := hname
    obtain ⟨c, word, htext, hc, -⟩ := Token.word_of_isWellFormed rfl hwellFormed
    use c
    constructor
    · rw [text, String.append_assoc, String.toList_append, htext]
      apply List.mem_cons_self
    · apply hc

/-- If `statement` is representable, then its text is not blank. -/
theorem not_isBlank_text {statement : Statement} (h : statement.isRepresentable) :
  isBlank statement.text = false
  := by
  obtain ⟨c, hmem, hc⟩ := exists_alpha_text h
  apply isBlank_of_mem_isAlpha hmem hc

end Statement

namespace Program

/-- If `program` is representable, then the lines of its text are those of its statements. -/
theorem lines_text {program : Program} (h : program.isRepresentable) :
  lines (text program) = program.map Statement.text
  := by
  induction program with
  | nil => rfl
  | cons statement rest ih =>
    obtain ⟨hstatement, hrest⟩ := Bool.and_eq_true_iff.mp h
    rw [text, lines_append_feed _ (Statement.unbroken_text hstatement), ih hrest, List.map_cons]

/-- If the lines of `source` are the texts of the statements of `program`, then this is what is
read. -/
theorem parse_of_lines {source : String} {program : Program} (h : program.isRepresentable)
    (hlines : lines source = program.map Statement.text) :
  parse source = .ok program
  := by
  have hstatements : ∀ statement ∈ program, statement.isRepresentable := List.all_eq_true.mp h
  have hblank : (program.map Statement.text).filter (fun text => !isBlank text)
      = program.map Statement.text := by
    rw [List.filter_eq_self, List.forall_mem_map]
    intro statement hmem
    rw [Statement.not_isBlank_text (hstatements statement hmem)]
    rfl
  rw [parse_eq_ok_iff, hlines, hblank, List.forall₂_map_left_iff, List.forall₂_same]
  intro statement hmem
  apply Statement.spells_text (hstatements statement hmem)

/-- If `program` is representable, then it is read from `Program.text`. -/
theorem parse_text {program : Program} (h : program.isRepresentable) :
  parse (text program) = .ok program
  := parse_of_lines h (lines_text h)

end Program

/-! ### What is read can be written down -/

/-- An `expr` that is derived from well-formed `tokens` is representable. -/
theorem Derives.isRepresentable {rule : Rule} {tokens : List Token} {expr : Expr}
    (h : Derives rule tokens expr) (hwellFormed : ∀ token ∈ tokens, token.isWellFormed) :
  expr.isRepresentable
  := by
  induction h with
  | number kind read => simp [Expr.isRepresentable]
  | name kind =>
    simpa [Expr.isRepresentable, Token.isWellFormed, kind] using hwellFormed
  | group opens inner closes ih =>
    rw [List.cons_append, List.forall_mem_cons, List.forall_mem_append] at hwellFormed
    obtain ⟨-, hinner, -⟩ := hwellFormed
    apply ih hinner
  | factor factor ih => apply ih hwellFormed
  | product first kind symbol second ihfirst ihsecond =>
    rw [List.forall_mem_append, List.forall_mem_cons] at hwellFormed
    obtain ⟨hfirst, -, hsecond⟩ := hwellFormed
    rw [Expr.isRepresentable, ihfirst hfirst, ihsecond hsecond, Bool.and_true]
  | term term ih => apply ih hwellFormed
  | sum first kind symbol second ihfirst ihsecond =>
    rw [List.forall_mem_append, List.forall_mem_cons] at hwellFormed
    obtain ⟨hfirst, -, hsecond⟩ := hwellFormed
    rw [Expr.isRepresentable, ihfirst hfirst, ihsecond hsecond, Bool.and_true]

/-- A `statement` that is derived from well-formed `tokens` is representable. -/
theorem Statement.Derives.isRepresentable {tokens : List Token} {statement : Statement}
    (h : Statement.Derives tokens statement) (hwellFormed : ∀ token ∈ tokens, token.isWellFormed) :
  statement.isRepresentable
  := by
  cases h with
  | printEmpty => rfl
  | print starts opens value closes =>
    rw [List.cons_append, List.cons_append, List.forall_mem_cons, List.forall_mem_cons,
      List.forall_mem_append] at hwellFormed
    obtain ⟨-, -, hvalue, -⟩ := hwellFormed
    apply value.isRepresentable hvalue
  | assign starts sign value =>
    rw [List.forall_mem_cons, List.forall_mem_cons] at hwellFormed
    obtain ⟨hname, -, hvalue⟩ := hwellFormed
    rw [Token.isWellFormed, starts] at hname
    rw [Statement.isRepresentable, value.isRepresentable hvalue, Bool.and_true]
    apply hname

/-- A `statement` that `text` spells is representable. -/
theorem Spells.isRepresentable {text : String} {statement : Statement}
    (h : Spells text statement) :
  statement.isRepresentable
  := by
  obtain ⟨tokens, htokens, hparse⟩ := h
  apply (Statement.derives_of_parse hparse).isRepresentable
  apply isWellFormed_of_tokenize htokens

namespace Program

/-- A `program` that is read from a `source` is representable. -/
theorem isRepresentable_of_parse {source : String} {program : Program}
    (h : parse source = .ok program) :
  program.isRepresentable
  := by
  rw [parse_eq_ok_iff] at h
  apply List.all_eq_true.mpr
  generalize (lines source).filter (fun text => !isBlank text) = texts at h
  induction h with
  | nil =>
    intro statement hmem
    cases hmem
  | cons hspells _ ih =>
    intro statement hmem
    rcases List.mem_cons.mp hmem with rfl | hmem
    · apply hspells.isRepresentable
    · apply ih statement hmem

/-- By `Program.parse`, a `program` is read from `Program.text` if and only if it is representable.
-/
theorem parse_text_eq_ok_iff (program : Program) :
  parse (text program) = .ok program ↔ program.isRepresentable
  := by
  constructor
  · apply isRepresentable_of_parse
  · apply parse_text

end Program

end IntScript
