import IntScript.Proofs.RoundTrip

/-!
# Canonical texts have the fewest tokens

Of all the lines from which an expression is read, its canonical text has the fewest tokens
(`Expr.text_has_fewest_tokens`).  As the lines differ in their parentheses only, apart from the
spelling of numbers, the canonical text has the fewest parentheses, and a line with equally many
has them at the same places.

The induction is on derivations.  It compares the tokens of a derivation with the canonical tokens
of its expression, in parentheses where the rule of the derivation is too tight for the expression:
a derivation that puts an operand into parentheses cannot do with less.
-/

namespace IntScript

/-! ### Fewer tokens -/

/-- There are fewer tokens in `canonical` than in `tokens`, or equally many of the same kinds. -/
structure Economises (canonical tokens : List Token) : Prop where
  length_le : canonical.length ≤ tokens.length
  kinds_eq : canonical.length = tokens.length → canonical.map Token.kind = tokens.map Token.kind

namespace Economises

variable {as bs cs ds : List Token}

theorem of_length_lt (h : as.length < bs.length) :
  Economises as bs
  := by
  constructor
  · apply Nat.le_of_lt h
  · intro heq
    apply absurd heq (Nat.ne_of_lt h)

theorem of_kinds_eq (h : as.map Token.kind = bs.map Token.kind) :
  Economises as bs
  := by
  constructor
  · have hlength := congrArg List.length h
    rw [List.length_map, List.length_map] at hlength
    apply Nat.le_of_eq hlength
  · intro _
    apply h

theorem trans (h : Economises as bs) (h' : Economises bs cs) :
  Economises as cs
  := by
  have hfirst := h.length_le
  have hsecond := h'.length_le
  constructor
  · apply Nat.le_trans hfirst hsecond
  · intro heq
    rw [h.kinds_eq (by omega), h'.kinds_eq (by omega)]

/-- If `as` economises on `bs` and `cs` on `ds`, then so does `as ++ cs` on `bs ++ ds`: neither
piece makes up for what the other one has too many. -/
theorem append (h : Economises as bs) (h' : Economises cs ds) :
  Economises (as ++ cs) (bs ++ ds)
  := by
  have hfirst := h.length_le
  have hsecond := h'.length_le
  constructor
  · rw [List.length_append, List.length_append]
    apply Nat.add_le_add hfirst hsecond
  · intro heq
    rw [List.length_append, List.length_append] at heq
    rw [List.map_append, List.map_append, h.kinds_eq (by omega), h'.kinds_eq (by omega)]

/-- If parentheses are `given` wherever they are `required`, then those that are not required are
saved. -/
theorem enclose {required given : Bool} (h : required → given) (tokens : List Token) :
  Economises (Token.enclose required tokens) (Token.enclose given tokens)
  := by
  cases required with
  | true =>
    rw [h rfl]
    apply of_kinds_eq rfl
  | false =>
    cases given with
    | true =>
      apply of_length_lt
      rw [Token.enclose, Token.enclose, if_neg (by decide), if_pos rfl, List.cons_append,
        List.length_cons, List.length_append]
      omega
    | false => apply of_kinds_eq rfl

end Economises

/-! ### Tokens for a rule -/

namespace Expr

/-- The canonical tokens of `expr` for `rule` to derive: in parentheses, if the expression is too
loose for it. -/
def tokensFor (rule : Rule) (expr : Expr) : List Token :=
  Token.enclose (expr.precedence < rule.strength) expr.tokens

theorem tokensFor_of_le {rule : Rule} {expr : Expr} (h : rule.strength ≤ expr.precedence) :
  expr.tokensFor rule = expr.tokens
  := by
  rw [tokensFor, decide_eq_false (Nat.not_lt_of_le h)]
  rfl

/-- The tokens of an operation are those that its rules require for `left` and `right`, with the
operator between them. -/
theorem tokens_binary (op : Operator) (left right : Expr) :
  (binary op left right).tokens
    = left.tokensFor op.tier.rule ++ op.token :: right.tokensFor op.tier.operand
  := by
  rw [tokens, tokensFor, tokensFor, op.strength_rule_tier, op.strength_operand_tier]
  simp only [Nat.lt_succ_iff]

/-- A looser `rule'` requires no more parentheses than `rule`. -/
theorem economises_loosen {rule rule' : Rule} (expr : Expr) (h : rule'.strength ≤ rule.strength) :
  Economises (expr.tokensFor rule') (expr.tokensFor rule)
  := by
  apply Economises.enclose
  simp only [decide_eq_true_eq]
  omega

/-- If `tokens` are no fewer than the canonical ones of `expr`, then neither are they in
parentheses. -/
theorem economises_group {tokens : List Token} {expr : Expr} {opening closing : Token}
    (hopens : opening.kind = .lparen) (hcloses : closing.kind = .rparen)
    (h : Economises (expr.tokensFor .expression) tokens) :
  Economises (expr.tokensFor .factor) (opening :: tokens ++ [closing])
  := by
  rw [tokensFor_of_le expr.strength_expression_le] at h
  have hopening : Economises [Token.opening] [opening] := by
    apply Economises.of_kinds_eq
    simp [Token.opening, hopens]
  have hclosing : Economises [Token.closing] [closing] := by
    apply Economises.of_kinds_eq
    simp [Token.closing, hcloses]
  have henclosed : Economises (Token.enclose true expr.tokens) (opening :: tokens ++ [closing]) :=
    (hopening.append h).append hclosing
  apply Economises.trans _ henclosed
  apply Economises.enclose
  intro _
  rfl

/-- If `ls` and `rs` are no fewer than the canonical tokens of the operands, then neither are `ls ++
sign :: rs` those of the operation. -/
theorem economises_operation {tier : Tier} {ls rs : List Token} {sign : Token} {op : Operator}
    {left right : Expr} (hsign : sign.isWellFormed) (hkind : tier.Admits sign.kind)
    (hsymbol : Operator.ofSymbol? sign.text = some op)
    (hleft : Economises (left.tokensFor tier.rule) ls)
    (hright : Economises (right.tokensFor tier.operand) rs) :
  Economises ((binary op left right).tokensFor tier.rule) (ls ++ sign :: rs)
  := by
  obtain ⟨op', rfl, rfl⟩ := Token.exists_operator hsign hkind
  obtain rfl : op' = op := by
    apply Option.some.inj
    rw [← hsymbol]
    symm
    apply op'.ofSymbol?_symbol
  have hstrength : op'.tier.rule.strength ≤ (binary op' left right).precedence := by
    rw [op'.strength_rule_tier]
    rfl
  have hoperator : Economises [op'.token] [op'.token] := Economises.of_kinds_eq rfl
  rw [tokensFor_of_le hstrength, tokens_binary]
  apply hleft.append (hoperator.append hright)

end Expr

/-! ### Derivations -/

/-- If `rule` derives `expr` from `tokens`, then there are no fewer than the canonical ones. -/
theorem Derives.economises {rule : Rule} {tokens : List Token} {expr : Expr}
    (h : Derives rule tokens expr) (hwellFormed : ∀ token ∈ tokens, token.isWellFormed) :
  Economises (expr.tokensFor rule) tokens
  := by
  induction h with
  | number kind read =>
    apply Economises.of_kinds_eq
    rw [List.map_singleton, kind]
    rfl
  | name kind =>
    apply Economises.of_kinds_eq
    rw [List.map_singleton, kind]
    rfl
  | group opens inner closes ih =>
    rw [List.cons_append, List.forall_mem_cons, List.forall_mem_append] at hwellFormed
    obtain ⟨-, hinner, -⟩ := hwellFormed
    apply Expr.economises_group opens closes (ih hinner)
  | @factor tokens expr factor ih =>
    apply (expr.economises_loosen _).trans (ih hwellFormed)
    decide
  | @product ls rs sign left right op first kind symbol second ihfirst ihsecond =>
    rw [List.forall_mem_append, List.forall_mem_cons] at hwellFormed
    obtain ⟨hfirst, hsign, hsecond⟩ := hwellFormed
    have hkind : Tier.product.Admits sign.kind := kind
    apply Expr.economises_operation hsign hkind symbol (ihfirst hfirst) (ihsecond hsecond)
  | @term tokens expr term ih =>
    apply (expr.economises_loosen _).trans (ih hwellFormed)
    decide
  | @sum ls rs sign left right op first kind symbol second ihfirst ihsecond =>
    rw [List.forall_mem_append, List.forall_mem_cons] at hwellFormed
    obtain ⟨hfirst, hsign, hsecond⟩ := hwellFormed
    have hkind : Tier.sum.Admits sign.kind := kind
    apply Expr.economises_operation hsign hkind symbol (ihfirst hfirst) (ihsecond hsecond)

/-- Whenever `expr` is read from a `line`, the text `Expr.text` has no more tokens than the line; if
it has equally many, then they are of the same kinds in the same order. -/
theorem Expr.text_has_fewest_tokens {line : String} {tokens : List Token} {expr : Expr}
    (htokens : tokenize line = .ok tokens) (hparse : parse tokens = .ok expr) :
  ∃ canonical, tokenize expr.text = .ok canonical ∧ canonical.length ≤ tokens.length
    ∧ (canonical.length = tokens.length → canonical.map Token.kind = tokens.map Token.kind)
  := by
  have hwellFormed := isWellFormed_of_tokenize htokens
  have hderives := parse_eq_ok_iff.mp hparse
  have heconomises := hderives.economises hwellFormed
  rw [tokensFor_of_le expr.strength_expression_le] at heconomises
  use expr.tokens, tokenize_text (hderives.isRepresentable hwellFormed)
  exact ⟨heconomises.length_le, heconomises.kinds_eq⟩

/-- Two pairs of parentheses of `((8 - (3)) / 2)` are not needed, and the third is. -/
theorem Expr.text_has_fewest_tokens_of_quotient :
  let expr := Expr.binary .div (.binary .sub (.num 8) (.num 3)) (.num 2)
  (∃ tokens, tokenize "((8 - (3)) / 2)" = .ok tokens ∧ parse tokens = .ok expr
    ∧ ∃ canonical, tokenize expr.text = .ok canonical ∧ canonical.length ≤ tokens.length
      ∧ (canonical.length = tokens.length → canonical.map Token.kind = tokens.map Token.kind))
  ∧ expr.text = "(8 - 3) / 2"
  := by
  intro expr
  let tokens : List Token :=
    [.opening, .opening, ⟨.number, "8"⟩, ⟨.minus, "-"⟩, .opening, ⟨.number, "3"⟩, .closing,
      .closing, ⟨.divide, "/"⟩, ⟨.number, "2"⟩, .closing]
  have htokens : tokenize "((8 - (3)) / 2)" = .ok tokens := by decide
  have hparse : parse tokens = .ok expr := by decide
  constructor
  · use tokens, htokens, hparse
    apply Expr.text_has_fewest_tokens htokens hparse
  · decide

end IntScript
