import IntScript.Proofs.Expr.Canonical

/-!
# Where an expression goes wrong

Tokens are viable when an expression can be made of them by putting more tokens behind them.  The
parser refuses tokens at the earliest possible place (`Expr.parse_error_viable_prefix`): if it
finds that the tokens end too early, they are viable, and if it refuses a token, then the tokens in
front of it are viable, and together with it they no longer are.

Two facts about the places that the parser can be at are behind this.  A token is either passed or
refused, whatever follows it; and from every place that the parser has come to, the expression can
be completed, by a number, if an operand is due, and by closing parentheses.
-/

namespace IntScript

/-- The `tokens` can be continued to something that is read. -/
def Viable (read : List Token → Except ParseError Expr) (tokens : List Token) : Prop :=
  ∃ more expr, (∀ token ∈ more, token.Occurs) ∧ read (tokens ++ more) = .ok expr

namespace ParseError

/-- The errors for tokens that end where an expression cannot end. -/
inductive AtEnd : ParseError → Prop where
  | emptyExpression : AtEnd .emptyExpression
  | unexpectedEnd : AtEnd (.unexpectedEnd .operand)
  | unclosedParen : AtEnd (.unclosedParen none)

/-- The errors for a `token` that is out of place in an expression. -/
inductive AtToken (token : Token) : ParseError → Prop where
  | unexpectedToken : AtToken token (.unexpectedToken token .operand)
  | unclosedParen : AtToken token (.unclosedParen (some token))
  | trailingTokens : AtToken token (.trailingTokens token)

end ParseError

/-! ### Places of the parser -/

namespace Expr

/-- A place that the parser can be at. -/
inductive Place where
  /-- An operand is due. -/
  | operand (level : Level) (outer : List Level)
  /-- A factor has just been read. -/
  | continuation (level : Level) (outer : List Level) (factor : Expr)

/-- A tree that takes up all the tokens. -/
def whole : Except ParseError (Expr × List Token) → Except ParseError Expr
  | .ok (expr, []) => .ok expr
  | .ok (_, first :: _) => .error (.trailingTokens first)
  | .error cause => .error cause

namespace Place

/-- The place at which `Expr.parse` begins. -/
def start : Place :=
  operand (.start .expression) []

/-- Parses all the tokens from a place on. -/
def read : Place → List Token → Except ParseError Expr
  | operand level outer, tokens => whole (parseOperand level outer tokens)
  | continuation level outer factor, tokens => whole (parseContinuation level outer factor tokens)

theorem read_start :
  start.read = parse
  := rfl

/-- A well-formed `token` takes the parser from `place` to the `next` one, or is refused, whatever
the `rest` is. -/
theorem read_cons (place : Place) {token : Token} (h : token.isWellFormed) :
  (∃ next : Place, ∀ rest, place.read (token :: rest) = next.read rest)
    ∨ ∃ cause : ParseError, cause.AtToken token
      ∧ ∀ rest, place.read (token :: rest) = .error cause
  := by
  cases place with
  | operand level outer =>
    cases hkind : token.kind with
    | number =>
      left
      have hnumeral : Decimal.isNumeral token.text := by
        simpa [Token.isWellFormed, hkind] using h
      use continuation level outer (.num (Decimal.value token.text.toList))
      intro rest
      simp [read, parseOperand, hkind, Decimal.read?, hnumeral]
    | identifier =>
      left
      use continuation level outer (.name token.text)
      intro rest
      simp [read, parseOperand, hkind]
    | lparen =>
      left
      use operand (.start .expression) (level :: outer)
      intro rest
      simp [read, parseOperand, hkind]
    | _ =>
      right
      use .unexpectedToken token .operand, .unexpectedToken
      intro rest
      simp [read, parseOperand, hkind, whole]
  | continuation level outer factor =>
    cases htier : level.rule.continuation? token.kind with
    | some tier =>
      left
      obtain ⟨op, -, rfl⟩ := Token.exists_operator h (Tier.admits_of_continuation? htier)
      use operand (level.extend factor op tier) outer
      intro rest
      apply congrArg whole
      apply parseContinuation_of_continues outer factor rest htier op.ofSymbol?_symbol
    | none =>
      cases outer with
      | nil =>
        right
        use .trailingTokens token, .trailingTokens
        intro rest
        simp [read, parseContinuation, htier, whole]
      | cons next outer =>
        by_cases hkind : token.kind = .rparen
        · left
          use continuation next outer (level.finish factor)
          intro rest
          apply congrArg whole
          apply parseContinuation_of_closes level next outer factor rest hkind
        · right
          use .unclosedParen (some token), .unclosedParen
          intro rest
          simp [read, parseContinuation, htier, hkind, whole]

/-- If the tokens end at `place`, then the error says so. -/
theorem atEnd_of_read_nil {place : Place} {cause : ParseError}
    (h : place.read [] = .error cause) :
  cause.AtEnd
  := by
  cases place with
  | operand level outer =>
    obtain rfl : level.missingOperand = cause := Except.error.inj h
    unfold Level.missingOperand
    split
    · apply ParseError.AtEnd.emptyExpression
    · apply ParseError.AtEnd.unexpectedEnd
  | continuation level outer factor =>
    cases outer with
    | nil => cases h
    | cons next outer =>
      cases h
      apply ParseError.AtEnd.unclosedParen

/-- Behind a `factor`, a closing parenthesis for each of the `outer` levels completes an expression.
-/
theorem exists_read_closing (level : Level) (outer : List Level) (factor : Expr) :
  ∃ expr, (continuation level outer factor).read (List.replicate outer.length .closing) = .ok expr
  := by
  induction outer generalizing level factor with
  | nil =>
    use level.finish factor
    rfl
  | cons next outer ih =>
    obtain ⟨expr, hexpr⟩ := ih next (level.finish factor)
    use expr
    rw [← hexpr]
    apply congrArg whole
    apply parseContinuation_of_closes level next outer factor _ rfl

/-- At every `place` an expression can be completed. -/
theorem viable_nil (place : Place) :
  Viable place.read []
  := by
  have hclosing (n : Nat) : ∀ token ∈ List.replicate n Token.closing, token.Occurs := by
    intro token hmem
    rw [List.eq_of_mem_replicate hmem]
    decide
  cases place with
  | operand level outer =>
    obtain ⟨expr, hexpr⟩ := exists_read_closing level outer (.num 0)
    use ⟨.number, "0"⟩ :: List.replicate outer.length .closing, expr
    constructor
    · rw [List.forall_mem_cons]
      use by decide, hclosing outer.length
    · rw [← hexpr]
      rfl
  | continuation level outer factor =>
    obtain ⟨expr, hexpr⟩ := exists_read_closing level outer factor
    use List.replicate outer.length .closing, expr, hclosing outer.length, hexpr

end Place

end Expr

/-! ### The earliest place -/

/-- The error is about the end of the `tokens`, which are viable, or about the earliest `token` that
makes them not viable. -/
def BlamesEarliest (read : List Token → Except ParseError Expr) (tokens : List Token)
    (cause : ParseError) : Prop :=
  (cause.AtEnd ∧ Viable read tokens)
    ∨ ∃ before token after, tokens = before ++ token :: after ∧ cause.AtToken token
      ∧ Viable read before ∧ ¬ Viable read (before ++ [token])

section

variable {read read' : List Token → Except ParseError Expr} {token : Token}

theorem viable_cons_iff (h : ∀ rest, read (token :: rest) = read' rest) (tokens : List Token) :
  Viable read (token :: tokens) ↔ Viable read' tokens
  := by
  simp only [Viable, List.cons_append, h]

theorem not_viable_singleton {cause : ParseError}
    (h : ∀ rest, read (token :: rest) = .error cause) :
  ¬ Viable read [token]
  := by
  rintro ⟨more, expr, -, hread⟩
  rw [List.singleton_append, h] at hread
  cases hread

/-- A `token` that is passed by, so that reading goes on with `read'`, is not to blame. -/
theorem BlamesEarliest.cons {rest : List Token} {cause : ParseError}
    (hread : ∀ rest, read (token :: rest) = read' rest) (h : BlamesEarliest read' rest cause) :
  BlamesEarliest read (token :: rest) cause
  := by
  rcases h with ⟨hend, hviable⟩ | ⟨before, blamed, after, rfl, hblamed, hviable, hstuck⟩
  · left
    rw [viable_cons_iff hread]
    exact ⟨hend, hviable⟩
  · right
    use token :: before, blamed, after, rfl, hblamed
    rw [List.cons_append, viable_cons_iff hread, viable_cons_iff hread]
    exact ⟨hviable, hstuck⟩

end

namespace Expr

/-- At every `place`, the parser blames the earliest token that it can. -/
theorem Place.blamesEarliest (place : Place) {tokens : List Token} {cause : ParseError}
    (hwellFormed : ∀ token ∈ tokens, token.isWellFormed) (h : place.read tokens = .error cause) :
  BlamesEarliest place.read tokens cause
  := by
  induction tokens generalizing place with
  | nil =>
    left
    exact ⟨atEnd_of_read_nil h, place.viable_nil⟩
  | cons token rest ih =>
    rw [List.forall_mem_cons] at hwellFormed
    obtain ⟨htoken, hrest⟩ := hwellFormed
    rcases place.read_cons htoken with ⟨next, hnext⟩ | ⟨refusal, hrefusal, hread⟩
    · rw [hnext] at h
      apply (ih next hrest h).cons hnext
    · rw [hread] at h
      cases h
      right
      use [], token, rest, rfl, hrefusal, place.viable_nil, not_viable_singleton hread

/-- If `tokens` of the lexer are not parsed, then they end too early, and more tokens would have
made them an expression; or the `token` at an index `k` is refused, and the first `k` tokens can be
continued to an expression, but not the first `k + 1`. -/
theorem parse_error_viable_prefix {tokens : List Token} {cause : ParseError}
    (hoccurs : ∀ token ∈ tokens, token.Occurs) (h : parse tokens = .error cause) :
  (cause.AtEnd ∧ Viable parse tokens)
    ∨ ∃ token k, cause.AtToken token ∧ tokens[k]? = some token
      ∧ Viable parse (tokens.take k) ∧ ¬ Viable parse (tokens.take (k + 1))
  := by
  have hwellFormed : ∀ token ∈ tokens, token.isWellFormed := by
    intro token hmem
    apply Token.occurs_iff_isWellFormed.mp (hoccurs token hmem)
  have hblames := Place.start.blamesEarliest hwellFormed h
  rw [Place.read_start] at hblames
  rcases hblames with hend | ⟨before, token, after, rfl, hblamed, hviable, hstuck⟩
  · left
    apply hend
  · right
    have hindex : (before ++ token :: after)[before.length]? = some token := by simp
    have hbefore : (before ++ token :: after).take before.length = before := List.take_left
    have hthrough : (before ++ token :: after).take (before.length + 1) = before ++ [token] := by
      rw [List.take_length_add_append]
      rfl
    use token, before.length, hblamed, hindex
    rw [hbefore, hthrough]
    exact ⟨hviable, hstuck⟩

/-- In `(x * (1 2` the second number is refused, and `(x * (` ends too early. -/
theorem parse_error_viable_prefix_second_number :
  let times : Token := ⟨.multiply, "*"⟩
  let second : Token := ⟨.number, "2"⟩
  let early : List Token := [.opening, ⟨.identifier, "x"⟩, times, .opening]
  let tokens : List Token := early ++ [⟨.number, "1"⟩, second]
  ((∀ token ∈ tokens, token.Occurs) ∧ parse tokens = .error (.unclosedParen (some second))
    ∧ ∃ k, tokens[k]? = some second
      ∧ Viable parse (tokens.take k) ∧ ¬ Viable parse (tokens.take (k + 1)))
  ∧ ((∀ token ∈ early, token.Occurs) ∧ parse early = .error .emptyExpression
    ∧ Viable parse early)
  := by
  intro times second early tokens
  have hoccurs : ∀ token ∈ tokens, token.Occurs := by decide
  have hrefused : parse tokens = .error (.unclosedParen (some second)) := rfl
  have hearly : ∀ token ∈ early, token.Occurs := by decide
  have hends : parse early = .error .emptyExpression := rfl
  constructor
  · use hoccurs, hrefused
    rcases parse_error_viable_prefix hoccurs hrefused with ⟨⟨⟩, -⟩ | ⟨_, k, ⟨⟩, hk⟩
    use k
  · use hearly, hends
    rcases parse_error_viable_prefix hearly hends with ⟨-, hviable⟩ | ⟨_, _, ⟨⟩, -⟩
    apply hviable

end Expr

end IntScript
