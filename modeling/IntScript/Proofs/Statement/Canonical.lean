import IntScript.Proofs.Expr.Canonical
import IntScript.Proofs.Source
import IntScript.Proofs.Statement.Derivation

/-!
# Canonical texts of statements

The canonical text of a statement that can be written down spells out the statement.
-/

namespace IntScript.Statement

/-- The tokens of `Statement.text`. -/
def tokens : Statement → List Token
  | print none => [Token.keyword, Token.opening, Token.closing]
  | print (some value) => Token.keyword :: Token.opening :: value.tokens ++ [Token.closing]
  | assign name value => ⟨.identifier, name⟩ :: ⟨.equals, "="⟩ :: value.tokens

/-- If `statement` is representable, then it is derived from `Statement.tokens`. -/
theorem derives_tokens {statement : Statement} (h : statement.isRepresentable) :
  Statement.Derives statement.tokens statement
  := by
  match statement with
  | print none => apply Derives.printEmpty rfl rfl rfl
  | print (some value) =>
    have hvalue := Expr.derives_tokens h .expression value.strength_expression_le
    apply Derives.print rfl rfl hvalue rfl
  | assign name value =>
    obtain ⟨-, hvalue⟩ := Bool.and_eq_true_iff.mp h
    have hvalue := Expr.derives_tokens hvalue .expression value.strength_expression_le
    have hname : Token.kind ⟨.identifier, name⟩ = .identifier := rfl
    apply Derives.assign hname rfl hvalue

/-- If `text` is scanned as `tokens`, then a print of it is scanned as these between those around
it. -/
theorem tokenize_print {text : String} {tokens : List Token} (h : tokenize text = .ok tokens) :
  tokenize ("print(" ++ text ++ ")")
    = .ok (Token.keyword :: Token.opening :: tokens ++ [Token.closing])
  := by
  have hopening : tokenize "print(" = .ok [Token.keyword, Token.opening] := by decide
  have hclosing : tokenize ")" = .ok [Token.closing] := by decide
  apply tokenize_between hopening h hclosing (by decide) (by decide)

/-- If `statement` is representable, then its text is scanned as `Statement.tokens`. -/
theorem tokenize_text {statement : Statement} (h : statement.isRepresentable) :
  tokenize statement.text = .ok statement.tokens
  := by
  match statement with
  | print none => decide
  | print (some value) => apply tokenize_print (Expr.tokenize_text h)
  | assign name value =>
    obtain ⟨hname, hvalue⟩ := Bool.and_eq_true_iff.mp h
    have hsign : tokenize " = " = .ok [⟨.equals, "="⟩] := by decide
    apply tokenize_around (Token.tokenize_text ⟨.identifier, name⟩ hname) hsign
      (Expr.tokenize_text hvalue) (by decide) (by decide)

/-- If `statement` is representable, then its text spells it. -/
theorem spells_text {statement : Statement} (h : statement.isRepresentable) :
  Spells statement.text statement
  := by
  use statement.tokens, tokenize_text h
  apply parse_of_derives (derives_tokens h)

end IntScript.Statement
