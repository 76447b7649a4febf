import IntScript.Proofs.Execution.LineByLine
import IntScript.Proofs.RoundTrip
import IntScript.Proofs.Text.Decimal

/-!
# Numbers in scripts

A number of any length is read as what its digits stand for, and printed without the zeros in front
of it.  Nothing but digits is read as a number (`literals_are_read_and_printed_exactly`).
-/

namespace IntScript

/-! ### Numbers as operands -/

/-- If `text` is a numeral, then its token is a factor. -/
theorem Derives.numeral {text : String} (h : Decimal.isNumeral text) :
  Derives .factor [⟨.number, text⟩] (.num (Decimal.value text.toList))
  := by
  apply Derives.number rfl
  rw [Decimal.read?, if_pos h]

/-- A token for a number is parsed as `Decimal.value` if its `text` is a numeral, and is refused
otherwise. -/
theorem Expr.parseAt_number (text : String) :
  parseAt .factor [⟨.number, text⟩] 0
    = if Decimal.isNumeral text then .ok (.num (Decimal.value text.toList), 1)
      else .error (.invalidNumber text)
  := by
  cases hnumeral : Decimal.isNumeral text with
  | false => simp [parseAt, parseRule, parseOperand, Decimal.read?, hnumeral]
  | true =>
    rw [parseAt, List.drop_zero, parseRule_of_derives_all (.numeral hnumeral)]
    rfl

/-! ### Numbers in output statements -/

/-- If `expr` is read from `text`, then a print of it is read from `print(text)`. -/
theorem Program.parse_print {text : String} {tokens : List Token} {expr : Expr}
    (hunbroken : Unbroken text) (htokens : tokenize text = .ok tokens)
    (hexpr : Derives .expression tokens expr) :
  parse ("print(" ++ text ++ ")") = .ok [.print (some expr)]
  := by
  have hspells : Spells ("print(" ++ text ++ ")") (.print (some expr)) := by
    use Token.keyword :: Token.opening :: tokens ++ [Token.closing]
    use Statement.tokenize_print htokens
    apply Statement.parse_of_derives (.print rfl rfl hexpr rfl)
  have hmem : 'p' ∈ ("print(" ++ text ++ ")").toList := by simp
  have hlines : lines ("print(" ++ text ++ ")") = ["print(" ++ text ++ ")"] := by
    apply lines_unterminated _ (Statement.unbroken_print hunbroken).isBody.1
    intro hempty
    rw [hempty] at hmem
    cases hmem
  rw [parse_eq_ok_iff, hlines, List.filter_singleton, isBlank_of_mem_isAlpha hmem (by decide)]
  apply List.Forall₂.cons hspells List.Forall₂.nil

/-- If `expr` is read from `text` and has a value, then `print(text)` prints that value. -/
theorem runToString_print {text : String} {tokens : List Token} {expr : Expr} {value : Int}
    (hunbroken : Unbroken text) (htokens : tokenize text = .ok tokens)
    (hexpr : Derives .expression tokens expr) (hvalue : expr.eval .empty = .ok value) :
  (runToString ("print(" ++ text ++ ")")).result = .ok (Decimal.text value ++ "\n")
  := by
  have heffect : (Statement.print (some expr)).effect .empty
      = .ok ⟨Decimal.text value ++ "\n", []⟩ := by
    rw [Statement.effect, hvalue]
    rfl
  have hexecute : Program.execute [.print (some expr)] .empty (.start none)
      = (Execution.start .empty (.start none)).advance ⟨Decimal.text value ++ "\n", []⟩ := by
    rw [Program.execute, Execution.steps_cons _ _ rfl, Execution.steps]
    apply Execution.step_of_accepts
    · apply heffect
    · rfl
  obtain ⟨houtput, hresult⟩ := run_of_parse_ok (Program.parse_print hunbroken htokens hexpr) none
  have hprinted : (run ("print(" ++ text ++ ")") none).output = Decimal.text value ++ "\n" := by
    rw [houtput, hexecute]
    apply String.empty_append
  rw [hexecute] at hresult
  simp only [runToString, hresult, hprinted]
  rfl

/-- If `text` is a numeral, then `print(text)` prints it without the zeros in front. -/
theorem runToString_print_numeral {text : String} (h : Decimal.isNumeral text) :
  (runToString ("print(" ++ text ++ ")")).result = .ok (Decimal.significant text ++ "\n")
  := by
  have hwellFormed : Token.isWellFormed ⟨.number, text⟩ := h
  have hdigits : ∀ c ∈ text.toList, c.isDigit :=
    List.all_eq_true.mp (Bool.and_eq_true_iff.mp h).2
  rw [← Decimal.text_value hdigits]
  apply runToString_print (Token.unbroken_text (.inl rfl) hwellFormed)
    (Token.tokenize_text _ hwellFormed) (.term (.factor (.numeral h)))
  rfl

/-- A token for a number is an operand if and only if `Decimal.OnlyDigits` holds of its `text`.
Then it is the number `Decimal.positional`, and a script that prints it prints the digits without
the zeros in front; otherwise the error names the `text`. -/
theorem literals_are_read_and_printed_exactly (text : String) :
  ((∃ answer, Expr.parseAt .factor [⟨.number, text⟩] 0 = .ok answer) ↔ Decimal.OnlyDigits text)
  ∧ (Decimal.OnlyDigits text →
    Expr.parseAt .factor [⟨.number, text⟩] 0 = .ok (.num (Decimal.positional text.toList), 1)
    ∧ (runToString ("print(" ++ text ++ ")")).result = .ok (Decimal.significant text ++ "\n"))
  ∧ (¬ Decimal.OnlyDigits text →
    Expr.parseAt .factor [⟨.number, text⟩] 0 = .error (.invalidNumber text))
  := by
  rw [← Decimal.isNumeral_iff, Expr.parseAt_number, Decimal.value_eq_positional]
  refine ⟨?_, ?_, ?_⟩
  · split
    next hnumeral => simp [hnumeral]
    next hnumeral => simp [hnumeral]
  · intro hnumeral
    rw [if_pos hnumeral]
    use rfl, runToString_print_numeral hnumeral
  · intro hnumeral
    rw [if_neg hnumeral]

/-- The zeros in front of `00120` count for nothing and are not printed, those of `000` are printed
as one; and signs, underscores and the digits of other scripts are not read. -/
theorem literals_are_read_and_printed_exactly_with_zeros :
  (Decimal.OnlyDigits "00120"
    ∧ Expr.parseAt .factor [⟨.number, "00120"⟩] 0 = .ok (.num 120, 1)
    ∧ (runToString "print(00120)").result = .ok "120\n")
  ∧ (Decimal.OnlyDigits "000" ∧ (runToString "print(000)").result = .ok "0\n")
  ∧ ∀ text ∈ ["", "+1", "-1", "1_000", "\u0663"], ¬ Decimal.OnlyDigits text
    ∧ Expr.parseAt .factor [⟨.number, text⟩] 0 = .error (.invalidNumber text)
  := by
  have hdigits : Decimal.OnlyDigits "00120" := Decimal.isNumeral_iff.mp (by decide)
  have hzeros : Decimal.OnlyDigits "000" := Decimal.isNumeral_iff.mp (by decide)
  have hothers : ∀ text ∈ ["", "+1", "-1", "1_000", "\u0663"], ¬ Decimal.OnlyDigits text := by
    simp only [← Decimal.isNumeral_iff]
    decide
  obtain ⟨-, hread, -⟩ := literals_are_read_and_printed_exactly "00120"
  obtain ⟨-, hprinted, -⟩ := literals_are_read_and_printed_exactly "000"
  refine ⟨⟨hdigits, hread hdigits⟩, ⟨hzeros, (hprinted hzeros).2⟩, ?_⟩
  intro text hmem
  obtain ⟨-, -, hrefused⟩ := literals_are_read_and_printed_exactly text
  use hothers text hmem, hrefused (hothers text hmem)

end IntScript
