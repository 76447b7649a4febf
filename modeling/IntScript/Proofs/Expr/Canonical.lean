import IntScript.Proofs.Expr.Derivation
import IntScript.Proofs.Token.WellFormed
import IntScript.Representable

/-!
# Canonical texts of expressions

The canonical text of an expression that can be written down is scanned as its canonical tokens,
and the grammar derives the expression from these: by every rule that is at least as loose as the
expression itself.  The parentheses of the canonical text are what makes the derivation possible,
as they turn an operand into a factor wherever the rule of the operand is too tight for it.
-/

namespace IntScript

/-! ### Rules and their strength -/

/-- The least `Expr.precedence` of the expressions that a rule derives without parentheses. -/
def Rule.strength : Rule → Nat
  | expression => 1
  | term => 2
  | factor => 3

/-- What `rule` derives is derived by each looser `rule'`. -/
theorem Derives.loosen {rule rule' : Rule} {tokens : List Token} {expr : Expr}
    (h : Derives rule tokens expr) (hle : rule'.strength ≤ rule.strength) :
  Derives rule' tokens expr
  := by
  cases rule with
  | expression =>
    cases rule' with
    | expression => apply h
    | term => simp [Rule.strength] at hle
    | factor => simp [Rule.strength] at hle
  | term =>
    cases rule' with
    | expression => apply Derives.term h
    | term => apply h
    | factor => simp [Rule.strength] at hle
  | factor =>
    cases rule' with
    | expression => apply Derives.term (Derives.factor h)
    | term => apply Derives.factor h
    | factor => apply h

/-! ### Canonical tokens -/

/-- The kind of the token that an operator is written with. -/
def Operator.kind : Operator → Kind
  | add => .plus
  | sub => .minus
  | mul => .multiply
  | div => .divide

/-- The token that `op` is written with. -/
def Operator.token (op : Operator) : Token :=
  ⟨op.kind, op.symbol⟩

/-- The kind of operation that an operator is used in. -/
def Operator.tier : Operator → Tier
  | add => .sum
  | sub => .sum
  | mul => .product
  | div => .product

theorem Operator.admits_kind (op : Operator) :
  op.tier.Admits op.kind
  := by
  cases op <;> simp [tier, kind, Tier.Admits]

/-- The left operand of `op` may have the precedence of `op` itself. -/
theorem Operator.strength_rule_tier (op : Operator) :
  op.tier.rule.strength = op.precedence
  := by
  cases op <;> rfl

/-- The right operand of `op` has to have a higher precedence than `op`. -/
theorem Operator.strength_operand_tier (op : Operator) :
  op.tier.operand.strength = op.precedence + 1
  := by
  cases op <;> rfl

/-- A well-formed `token` whose kind `tier` admits is the token of some operator in that tier. -/
theorem Token.exists_operator {token : Token} {tier : Tier} (h : token.isWellFormed)
    (hkind : tier.Admits token.kind) :
  ∃ op : Operator, op.tier = tier ∧ op.token = token
  := by
  obtain ⟨kind, text⟩ := token
  cases tier with
  | sum =>
    rcases hkind with rfl | rfl
    · obtain rfl : "+" = text := by simpa [isWellFormed, Kind.spelling?] using h
      exact ⟨.add, rfl, rfl⟩
    · obtain rfl : "-" = text := by simpa [isWellFormed, Kind.spelling?] using h
      exact ⟨.sub, rfl, rfl⟩
  | product =>
    rcases hkind with rfl | rfl
    · obtain rfl : "*" = text := by simpa [isWellFormed, Kind.spelling?] using h
      exact ⟨.mul, rfl, rfl⟩
    · obtain rfl : "/" = text := by simpa [isWellFormed, Kind.spelling?] using h
      exact ⟨.div, rfl, rfl⟩

namespace Token

/-- The token `(`. -/
def opening : Token :=
  ⟨.lparen, "("⟩

/-- The token `)`. -/
def closing : Token :=
  ⟨.rparen, ")"⟩

/-- The `tokens`, between `opening` and `closing` if they are `parenthesised`. -/
def enclose (parenthesised : Bool) (tokens : List Token) : List Token :=
  if parenthesised then opening :: tokens ++ [closing] else tokens

end Token

/-- The tokens of `Expr.text`. -/
def Expr.tokens : Expr → List Token
  | num value => [⟨.number, Decimal.text value⟩]
  | name identifier => [⟨.identifier, identifier⟩]
  | binary op left right =>
    Token.enclose (left.precedence < op.precedence) left.tokens
      ++ op.token :: Token.enclose (right.precedence ≤ op.precedence) right.tokens

namespace Expr

/-- If a number is representable, then its `value` is a natural number. -/
theorem exists_nat_of_isRepresentable {value : Int} (h : (num value).isRepresentable) :
  ∃ n : Nat, value = n
  := by
  apply Int.eq_ofNat_of_zero_le
  simpa [isRepresentable] using h

/-! ### Canonical tokens are derived -/

/-- The strength of the rule `expression` is the least `Expr.precedence` there is. -/
theorem strength_expression_le (expr : Expr) :
  Rule.expression.strength ≤ expr.precedence
  := by
  cases expr with
  | num => simp [Rule.strength, precedence]
  | name => simp [Rule.strength, precedence]
  | binary op => cases op <;> simp [Rule.strength, precedence, Operator.precedence]

/-- An operand that need not be `parenthesised` for the sake of `rule` is derived by it; in
parentheses any operand is. -/
theorem derives_enclose {expr : Expr} {rule : Rule} {parenthesised : Bool}
    (h : ∀ rule : Rule, rule.strength ≤ expr.precedence → Derives rule expr.tokens expr)
    (hbare : parenthesised = false → rule.strength ≤ expr.precedence) :
  Derives rule (Token.enclose parenthesised expr.tokens) expr
  := by
  cases parenthesised with
  | false => apply h rule (hbare rfl)
  | true =>
    have hexpression := h .expression (strength_expression_le expr)
    have hgroup : Derives .factor (Token.enclose true expr.tokens) expr := by
      apply Derives.group rfl hexpression rfl
    apply hgroup.loosen
    cases rule <;> decide

/-- A representable `expr` is derived from `Expr.tokens` by every `rule` that is loose enough. -/
theorem derives_tokens {expr : Expr} (h : expr.isRepresentable) (rule : Rule)
    (hrule : rule.strength ≤ expr.precedence) :
  Derives rule expr.tokens expr
  := by
  induction expr generalizing rule with
  | num value =>
    obtain ⟨n, rfl⟩ := exists_nat_of_isRepresentable h
    have hfactor : Derives .factor (num n).tokens (num n) := by
      apply Derives.number rfl
      apply Decimal.read?_repr
    apply hfactor.loosen hrule
  | name identifier =>
    have hfactor : Derives .factor (name identifier).tokens (name identifier) := by
      apply Derives.name rfl
    apply hfactor.loosen hrule
  | binary op left right ihleft ihright =>
    obtain ⟨hleft, hright⟩ := Bool.and_eq_true_iff.mp h
    have hoperation : Derives op.tier.rule (binary op left right).tokens
        (binary op left right) := by
      apply Derives.operation _ op.admits_kind op.ofSymbol?_symbol
      · apply derives_enclose (ihright hright)
        rw [decide_eq_false_iff_not, op.strength_operand_tier]
        omega
      · apply derives_enclose (ihleft hleft)
        rw [decide_eq_false_iff_not, op.strength_rule_tier]
        omega
    apply hoperation.loosen
    rw [op.strength_rule_tier]
    apply hrule

/-! ### Canonical texts are scanned -/

/-- If `text` is scanned as `tokens`, then it is so in parentheses. -/
theorem tokenize_enclose {text : String} {tokens : List Token} (parenthesised : Bool)
    (h : tokenize text = .ok tokens) :
  tokenize (enclose parenthesised text) = .ok (Token.enclose parenthesised tokens)
  := by
  cases parenthesised with
  | false => apply h
  | true =>
    have hopening : tokenize "(" = .ok [Token.opening] := by decide
    have hclosing : tokenize ")" = .ok [Token.closing] := by decide
    apply tokenize_between hopening h hclosing (by decide) (by decide)

/-- The text of a representable `expr` is scanned as `Expr.tokens`. -/
theorem tokenize_text {expr : Expr} (h : expr.isRepresentable) :
  tokenize expr.text = .ok expr.tokens
  := by
  induction expr with
  | num value =>
    obtain ⟨n, rfl⟩ := exists_nat_of_isRepresentable h
    apply Token.tokenize_text ⟨.number, n.repr⟩
    apply Decimal.isNumeral_repr
  | name identifier =>
    apply Token.tokenize_text ⟨.identifier, identifier⟩
    apply h
  | binary op left right ihleft ihright =>
    obtain ⟨hleft, hright⟩ := Bool.and_eq_true_iff.mp h
    have hsign : tokenize (" " ++ op.symbol ++ " ") = .ok [op.token] := by
      cases op <;> decide
    have hoperands := tokenize_around
      (tokenize_enclose (left.precedence < op.precedence) (ihleft hleft)) hsign
      (tokenize_enclose (right.precedence ≤ op.precedence) (ihright hright))
      (by cases op <;> decide) (by cases op <;> decide)
    simpa [text, tokens, String.append_assoc] using hoperands

end Expr

end IntScript
