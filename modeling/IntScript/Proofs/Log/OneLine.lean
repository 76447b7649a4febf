import IntScript.Proofs.CommandLine.Tokens
import IntScript.Proofs.Log.Replay
import IntScript.Proofs.Source.Refusal
import IntScript.Proofs.Text.Pieces
import IntScript.Proofs.Token.Alphabet

/-!
# Entries and messages are single lines

The entry of an event is one line of the log, whatever texts it shows: those that could contain line
feeds are quoted, and line feeds are escaped in them.  Only the text of a statement is shown as it
is, and for a statement that was read from a source it is one line.

Messages show characters, tokens and names as they are.  The errors of a source are about foreign
characters, well-formed tokens and names of the language, so its messages are single lines too.
-/

namespace IntScript

/-! ### Quoted texts -/

namespace Quoted

/-- There is no line feed among the digits of `n` in a `base` of at least two. -/
theorem feed_not_mem_toDigits {base : Nat} (hbase : 1 < base) (n : Nat) :
  '\n' ∉ Nat.toDigits base n
  := by
  have hdigit (d : Nat) : '\n' ≠ d.digitChar := (Nat.digitChar_ne '\n' (by decide)).symm
  induction n using Nat.strong_induction_on with
  | _ n ih =>
    rw [Nat.toDigits_eq_if hbase]
    split
    next =>
      rw [List.mem_singleton]
      apply hdigit
    next hlarge =>
      have hsmaller : n / base < n := Nat.div_lt_self (by omega) hbase
      rw [List.mem_append, List.mem_singleton, not_or]
      exact ⟨ih _ hsmaller, hdigit _⟩

/-- The characters that `escape` puts in the place of `c` have no line feed. -/
theorem oneLine_escape (mark c : Char) :
  OneLine (escape mark c)
  := by
  have hbackslash : OneLine "\\" := by decide
  have hopening : OneLine "\\u\x7b" := by decide
  have hclosing : OneLine "\x7d" := by decide
  have hdigits : OneLine (String.ofList (Nat.toDigits 16 c.toNat)) := by
    rw [OneLine, String.toList_ofList]
    apply feed_not_mem_toDigits (by decide)
  unfold escape
  split
  next => decide
  next =>
    split
    next => decide
    next =>
      split
      next => decide
      next hfeed =>
        split
        next => decide
        next =>
          split
          next => apply hbackslash.append (.toString hfeed)
          next =>
            split
            next => apply OneLine.toString hfeed
            next => apply (hopening.append hdigits).append hclosing

theorem oneLine_char (c : Char) :
  OneLine (char c)
  := by
  have hmark : OneLine "'" := by decide
  apply (hmark.append (oneLine_escape _ c)).append hmark

theorem oneLine_text (s : String) :
  OneLine (text s)
  := by
  have hmark : OneLine "\"" := by decide
  have hchars : OneLine (String.join (s.toList.map (escape '\x22'))) := by
    apply OneLine.join
    rw [List.forall_mem_map]
    intro c _
    apply oneLine_escape
  apply (hmark.append hchars).append hmark

end Quoted

/-! ### Details of errors -/

theorem oneLine_detailed {label : String} {particulars : List (String × String)}
    (hlabel : OneLine label) (h : ∀ p ∈ particulars, OneLine p.1 ∧ OneLine p.2) :
  OneLine (detailed label particulars)
  := by
  have hopening : OneLine " \x7b " := by decide
  have hclosing : OneLine " \x7d" := by decide
  have hcolon : OneLine ": " := by decide
  refine ((hlabel.append hopening).append ?_).append hclosing
  apply OneLine.intercalate (by decide)
  rw [List.forall_mem_map]
  intro p hp
  apply ((h p hp).1.append hcolon).append (h p hp).2

section
variable {label name text name' text' : String}

theorem oneLine_detailed_one (hlabel : OneLine label) (hname : OneLine name)
    (htext : OneLine text) :
  OneLine (detailed label [(name, text)])
  := by
  apply oneLine_detailed hlabel
  rw [List.forall_mem_singleton]
  exact ⟨hname, htext⟩

theorem oneLine_detailed_two (hlabel : OneLine label) (hname : OneLine name)
    (htext : OneLine text) (hname' : OneLine name') (htext' : OneLine text') :
  OneLine (detailed label [(name, text), (name', text')])
  := by
  apply oneLine_detailed hlabel
  rw [List.forall_mem_cons, List.forall_mem_singleton]
  exact ⟨⟨hname, htext⟩, hname', htext'⟩

end

theorem Token.oneLine_details (token : Token) :
  OneLine token.details
  := by
  have hkind : OneLine token.kind.details := by cases token.kind <;> decide
  apply oneLine_detailed_two (by decide) (by decide) hkind (by decide) (Quoted.oneLine_text _)

theorem UnexpectedCharacter.oneLine_details (fault : UnexpectedCharacter) :
  OneLine fault.details
  := by
  have hlabel : OneLine fault.label := by
    rw [label]
    decide
  apply oneLine_detailed_two hlabel (by decide) (Quoted.oneLine_char _) (by decide)
    (Decimal.oneLine_text _)

theorem ParseError.oneLine_details (cause : ParseError) :
  OneLine cause.details
  := by
  have hlabel : OneLine cause.label := by cases cause <;> simp only [label] <;> decide
  match cause with
  | emptyStatement => apply hlabel
  | emptyExpression => apply hlabel
  | unexpectedToken token expected =>
    apply oneLine_detailed_two hlabel (by decide) token.oneLine_details (by decide)
      (Quoted.oneLine_text _)
  | unexpectedEnd expected =>
    apply oneLine_detailed_one hlabel (by decide) (Quoted.oneLine_text _)
  | unclosedParen none =>
    apply oneLine_detailed_one hlabel (by decide) (by decide)
  | unclosedParen (some token) =>
    have hopening : OneLine "Some(" := by decide
    have hclosing : OneLine ")" := by decide
    apply oneLine_detailed_one hlabel (by decide)
      ((hopening.append token.oneLine_details).append hclosing)
  | trailingTokens first =>
    apply oneLine_detailed_one hlabel (by decide) first.oneLine_details
  | invalidStatement first =>
    apply oneLine_detailed_one hlabel (by decide) first.oneLine_details
  | invalidNumber text =>
    apply oneLine_detailed_one hlabel (by decide) (Quoted.oneLine_text _)
  | unknownOperator text =>
    apply oneLine_detailed_one hlabel (by decide) (Quoted.oneLine_text _)

theorem RuntimeError.oneLine_details (cause : RuntimeError) :
  OneLine cause.details
  := by
  have hlabel : OneLine cause.label := by cases cause <;> simp only [label] <;> decide
  cases cause with
  | unknownVariable name =>
    apply oneLine_detailed_one hlabel (by decide) (Quoted.oneLine_text _)
  | divisionByZero => apply hlabel
  | bareExpression =>
    apply oneLine_detailed_one hlabel (by decide) (Quoted.oneLine_text _)
  | output reason =>
    have hopening : OneLine "(" := by decide
    have hclosing : OneLine ")" := by decide
    have hreason :
        OneLine (detailed "Custom" [("kind", "Other"), ("error", Quoted.text reason)]) := by
      apply oneLine_detailed_two (by decide) (by decide) (by decide) (by decide)
        (Quoted.oneLine_text reason)
    apply ((hlabel.append hopening).append hreason).append hclosing

theorem Error.oneLine_details (error : Error) :
  OneLine error.details
  := by
  have hstage : OneLine error.stage := by cases error <;> simp only [stage] <;> decide
  cases error with
  | scan line cause =>
    apply oneLine_detailed_two hstage (by decide) (Decimal.oneLine_text _) (by decide)
      cause.oneLine_details
  | parse line cause =>
    apply oneLine_detailed_two hstage (by decide) (Decimal.oneLine_text _) (by decide)
      cause.oneLine_details
  | runtime cause =>
    have hopening : OneLine "(" := by decide
    have hclosing : OneLine ")" := by decide
    apply ((hstage.append hopening).append cause.oneLine_details).append hclosing

/-! ### Entries -/

namespace Event

/-- The statement that an event may show is representable. -/
def Legible : Event → Prop
  | parsed _ statement => statement.isRepresentable
  | _ => True

/-- The fields of a legible `event` are single lines. -/
theorem oneLine_fields {event : Event} (h : event.Legible) :
  ∀ p ∈ event.fields, OneLine p.2.text
  := by
  cases event with
  | token lexeme =>
    have hkind : OneLine lexeme.token.kind.name := by cases lexeme.token.kind <;> decide
    simp only [fields, List.forall_mem_cons]
    exact ⟨hkind, Quoted.oneLine_text _, Decimal.oneLine_text _, List.forall_mem_nil _⟩
  | parsed line statement =>
    have hstatement := (Statement.unbroken_text h).oneLine
    simp only [fields, List.forall_mem_cons]
    exact ⟨Decimal.oneLine_text _, hstatement, List.forall_mem_nil _⟩
  | assigned binding =>
    simp only [fields, List.forall_mem_cons]
    exact ⟨Quoted.oneLine_text _, Decimal.oneLine_text _, List.forall_mem_nil _⟩
  | failed error =>
    simp only [fields, List.forall_mem_singleton]
    apply error.oneLine_details
  | evaluating count | running count | finished count =>
    simp only [fields, List.forall_mem_singleton]
    apply Decimal.oneLine_text

/-- The names in `Event.fields` are single lines. -/
theorem oneLine_name_of_mem_fields {event : Event} {p : String × Field} (h : p ∈ event.fields) :
  OneLine p.1
  := by
  have hnames : ∀ name ∈ event.fields.map Prod.fst, OneLine name := by
    cases event <;> simp only [fields, List.map_cons, List.map_nil] <;> decide
  apply hnames p.1 (List.mem_map_of_mem h)

/-- If the fields of `event` are single lines, then so is `Event.entry`. -/
theorem oneLine_entry {event : Event} (h : ∀ p ∈ event.fields, OneLine p.2.text) :
  OneLine event.entry
  := by
  have hseverity :
      OneLine ("".pushn ' ' (5 - event.severity.name.length) ++ event.severity.name) := by
    cases event.severity <;> decide
  have hspace : OneLine " " := by decide
  have hequals : OneLine "=" := by decide
  have hmessage : OneLine event.message := by cases event <;> simp only [message] <;> decide
  apply ((hseverity.append hspace).append hmessage).append
  apply OneLine.join
  rw [List.forall_mem_map]
  intro p hp
  apply ((hspace.append (oneLine_name_of_mem_fields hp)).append hequals).append (h p hp)

end Event

/-- An `event` in the record of a `line` is legible. -/
theorem Line.legible_of_mem_record {line : Line} {event : Event} (h : event ∈ line.record) :
  event.Legible
  := by
  rcases List.mem_append.mp h with htoken | hparsed
  · obtain ⟨lexeme, -, rfl⟩ := List.mem_map.mp htoken
    trivial
  · split at hparsed
    next statement hparse =>
      obtain rfl := List.mem_singleton.mp hparsed
      apply (Line.parse_eq_ok_iff.mp hparse).isRepresentable
    next => cases hparsed

theorem Program.legible_of_mem_read {source : String} {event : Event}
    (h : event ∈ (read source).events) :
  event.Legible
  := by
  rw [read, events_readLines] at h
  obtain ⟨line, -, hrecord⟩ := List.mem_flatMap.mp h
  apply Line.legible_of_mem_record hrecord

theorem legible_of_mem_run {source : String} {room : Option Nat} {event : Event}
    (h : event ∈ (run source room).events) :
  event.Legible
  := by
  simp only [run] at h
  split at h
  next => apply Program.legible_of_mem_read h
  next =>
    rcases List.mem_append.mp h with hread | hexecute
    · apply Program.legible_of_mem_read hread
    · rcases List.mem_cons.mp hexecute with rfl | hassigned
      · trivial
      · obtain ⟨binding, -, rfl⟩ := List.mem_map.mp hassigned
        trivial

/-! ### Messages -/

theorem UnexpectedCharacter.oneLine_message {fault : UnexpectedCharacter}
    (h : isForeign fault.character) :
  OneLine fault.message
  := by
  have hopening : OneLine "Unexpected character '" := by decide
  have hat : OneLine "' at position " := by decide
  have hend : OneLine "." := by decide
  have hcharacter : OneLine fault.character.toString := by
    apply OneLine.toString
    intro hfeed
    rw [hfeed] at h
    cases h
  apply (((hopening.append hcharacter).append hat).append (Decimal.oneLine_text _)).append hend

/-- A message about well-formed `tokens` is a single line. -/
theorem ParseError.Concerns.oneLine_message {tokens : List Token} {cause : ParseError}
    (h : cause.Concerns tokens) (hwellFormed : ∀ token ∈ tokens, token.isWellFormed) :
  OneLine cause.message
  := by
  have hdescription {token : Token} (hmem : token ∈ tokens) : OneLine token.description :=
    (Token.unbroken_description (hwellFormed token hmem)).oneLine
  have hend : OneLine "." := by decide
  have hunexpected {token : Token} (hmem : token ∈ tokens) (expected : Expectation) :
      OneLine (unexpectedToken token expected).message := by
    have hopening : OneLine "Unexpected token " := by decide
    have hcomma : OneLine ", expected " := by decide
    have hexpected : OneLine expected.text := by cases expected <;> decide
    apply (((hopening.append (hdescription hmem)).append hcomma).append hexpected).append hend
  cases h with
  | atEnd ends => cases ends <;> decide
  | missingOpening => decide
  | wrongOpening mem => apply hunexpected mem
  | invalidStatement mem =>
    have hinvalid : OneLine "Invalid statement starting with " := by decide
    have hforms : OneLine ". Expected 'print(...)' or 'name = ...'." := by decide
    apply (hinvalid.append (hdescription mem)).append hforms
  | atToken mem blames =>
    cases blames with
    | unexpectedToken => apply hunexpected mem
    | unclosedParen =>
      have hclosing : OneLine "Expected closing parenthesis ')' but found " := by decide
      apply (hclosing.append (hdescription mem)).append hend
    | trailingTokens =>
      have hextra : OneLine "Extra tokens after expression, starting at " := by decide
      apply (hextra.append (hdescription mem)).append hend

theorem Error.Stems.oneLine_message {line : Line} {error : Error} (h : error.Stems line) :
  OneLine error.message
  := by
  have hopening : OneLine "Error on line " := by decide
  have hcolon : OneLine ": " := by decide
  have hline := (hopening.append (Decimal.oneLine_text line.number)).append hcolon
  cases h with
  | scan refused =>
    obtain ⟨-, -, -, -, -, hforeign⟩ := exists_split_of_tokenize refused
    apply hline.append (UnexpectedCharacter.oneLine_message hforeign)
  | parse scanned concerns =>
    apply hline.append (concerns.oneLine_message (isWellFormed_of_tokenize scanned))

/-! ### Names -/

theorem Expr.isName_of_mem_reads {expr : Expr} {name : String} (h : expr.isRepresentable)
    (hmem : name ∈ expr.reads) :
  isName name
  := by
  induction expr with
  | num value => cases hmem
  | name identifier =>
    obtain rfl := List.mem_singleton.mp hmem
    apply h
  | binary op left right ihleft ihright =>
    obtain ⟨hleft, hright⟩ := Bool.and_eq_true_iff.mp h
    rcases List.mem_append.mp hmem with hmem | hmem
    · apply ihleft hleft hmem
    · apply ihright hright hmem

theorem Statement.isName_of_mem_reads {statement : Statement} {name : String}
    (h : statement.isRepresentable) (hmem : name ∈ statement.reads) :
  isName name
  := by
  match statement with
  | print none => cases hmem
  | print (some value) => apply Expr.isName_of_mem_reads h hmem
  | assign _ value =>
    obtain ⟨-, hvalue⟩ := Bool.and_eq_true_iff.mp h
    apply Expr.isName_of_mem_reads hvalue hmem

/-- If `program` is representable, then `isName` holds of its live names. -/
theorem Program.isName_of_liveIn {program : Program} {name : String} (h : program.isRepresentable)
    (hlive : program.LiveIn name) :
  isName name
  := by
  obtain ⟨before, statement, after, rfl, hreads, -⟩ := hlive
  have hmem : statement ∈ before ++ statement :: after :=
    List.mem_append_right _ List.mem_cons_self
  apply Statement.isName_of_mem_reads (List.all_eq_true.mp h statement hmem) hreads

/-- If `run` fails, then the message of its `error` is a single line. -/
theorem oneLine_message_of_run {source : String} {room : Option Nat} {error : Error}
    (h : (run source room).result = .error error) :
  OneLine error.message
  := by
  rcases cases_of_run h with ⟨line, hstems⟩ | ⟨program, cause, hparse, hfailure, rfl⟩
  · apply hstems.oneLine_message
  · rcases Program.cases_of_failure hfailure with ⟨name, rfl⟩ | rfl | rfl
    · have hopening : OneLine "Name '" := by decide
      have hclosing : OneLine "' is not defined." := by decide
      obtain ⟨hlive, -⟩ := Program.liveIn_of_unknown hfailure
      have hname : Token.isWellFormed ⟨.identifier, name⟩ :=
        Program.isName_of_liveIn (Program.isRepresentable_of_parse hparse) hlive
      apply (hopening.append (Token.unbroken_of_isWellFormed hname).oneLine).append hclosing
    · decide
    · have hreason : OneLine "Failed to write output: closed" := by decide
      apply hreason

end IntScript
