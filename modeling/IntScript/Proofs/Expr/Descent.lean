import IntScript.Proofs.Expr.Lookahead

/-!
# Recursive descent

The rules of the grammar can be read as functions that call each other.  An expression calls for a
term, and for one more term behind each sign of a sum; a term calls for a factor, and for one more
factor behind each sign of a product; a factor calls for an expression behind an opening
parenthesis.  Each function is given the index at which it starts, and returns the index at which
the next one goes on (`Expr.descend`).

The parser goes through the tokens once instead, with the open parentheses in levels.  Cut at an
operand, and at the end of a term, it does what the functions do (`Expr.parseRule_eq_bind`,
`Expr.parseOperand_extend`).  Hence the functions come to an end, with the answer of the parser, and
no more than three calls are nested for each token that is left (`Expr.descend_eq_parseAt`).
-/

namespace IntScript

/-- The rule `factor` is not continued by any tokens. -/
theorem Rule.stops_factor (rest : List Token) :
  Rule.factor.Stops rest
  := by
  intro token _
  rfl

/-- How many calls are nested when a rule begins with a factor, that of the rule and that of the
factor included. -/
def Rule.height : Rule → Nat
  | factor => 1
  | term => 2
  | expression => 3

instance : (tier : Tier) → (kind : Kind) → Decidable (tier.Admits kind)
  | .sum, kind => inferInstanceAs (Decidable (kind = .plus ∨ kind = .minus))
  | .product, kind => inferInstanceAs (Decidable (kind = .multiply ∨ kind = .divide))

/-- If `kind` does not continue the last operand of an operation, then it continues the operation if
and only if `tier` admits it. -/
theorem Tier.continuation?_rule_eq (tier : Tier) {kind : Kind}
    (h : tier.operand.continuation? kind = none) :
  tier.rule.continuation? kind = if tier.Admits kind then some tier else none
  := by
  cases tier <;> cases kind <;> first | rfl | cases h

namespace Expr

/-! ### Functions that call each other -/

/-- What a call answers, unless too many calls are nested: a tree and the index of the first token
behind it, or an error. -/
abbrev Descent := ExceptT ParseError Option (Expr × Nat)

mutual

/-- Parses a rule from `index` on, with at most `calls` calls nested.  Each round of a loop counts
as a call. -/
def descend (tokens : List Token) : (calls : Nat) → Rule → (index : Nat) → Descent
  | 0, _, _ => .mk none
  | calls + 1, .factor, index =>
    match tokens[index]? with
    | none => throw (.unexpectedEnd .operand)
    | some token =>
      match token.kind with
      | .number =>
        match Decimal.read? token.text with
        | some value => return (.num value, index + 1)
        | none => throw (.invalidNumber token.text)
      | .identifier => return (.name token.text, index + 1)
      | .lparen => do
        let (inner, next) ← descend tokens calls .expression (index + 1)
        match tokens[next]? with
        | none => throw (.unclosedParen none)
        | some closing =>
          if closing.kind = .rparen then return (inner, next + 1)
          else throw (.unclosedParen (some closing))
      | _ => throw (.unexpectedToken token .operand)
  | calls + 1, .term, index => do
    let (left, next) ← descend tokens calls .factor index
    descendFurther tokens calls .product left next
  | calls + 1, .expression, index =>
    if tokens.length ≤ index then throw .emptyExpression
    else do
      let (left, next) ← descend tokens calls .term index
      descendFurther tokens calls .sum left next

/-- Goes on with an operation behind its `left` operand: as long as an operator follows, one more
operand is parsed. -/
def descendFurther (tokens : List Token) :
    (calls : Nat) → Tier → (left : Expr) → (index : Nat) → Descent
  | 0, _, _, _ => .mk none
  | calls + 1, tier, left, index =>
    match tokens[index]? with
    | none => return (left, index)
    | some sign =>
      if tier.Admits sign.kind then
        match Operator.ofSymbol? sign.text with
        | none => throw (.unknownOperator sign.text)
        | some op => do
          let (right, next) ← descend tokens calls tier.operand (index + 1)
          descendFurther tokens calls tier (.binary op left right) next
      else
        return (left, index)

end

/-! ### Parentheses -/

/-- If there is a `cause` for an error, then it is the same inside of the `outer` levels.  The two
conjuncts are the two places in which the parser can be, and they go through the induction together.
-/
theorem parse_error_append (tokens : List Token) (outer : List Level) :
  (∀ level inner cause, parseOperand level inner tokens = .error cause →
      parseOperand level (inner ++ outer) tokens = .error cause)
    ∧ ∀ level inner factor cause, parseContinuation level inner factor tokens = .error cause →
      parseContinuation level (inner ++ outer) factor tokens = .error cause
  := by
  induction tokens with
  | nil =>
    constructor
    · intro level inner cause h
      rw [parseOperand] at h ⊢
      apply h
    · intro level inner factor cause h
      cases inner with
      | nil => cases h
      | cons next inner => apply h
  | cons token rest ih =>
    obtain ⟨ihoperand, ihcontinuation⟩ := ih
    constructor
    · intro level inner cause h
      unfold parseOperand at h ⊢
      split at h
      next =>
        split at h
        next => apply ihcontinuation _ _ _ _ h
        next => apply h
      next => apply ihcontinuation _ _ _ _ h
      next => apply ihoperand _ (level :: inner) _ h
      next => apply h
    · intro level inner factor cause h
      unfold parseContinuation at h ⊢
      split at h
      next =>
        split at h
        next => apply ihoperand _ _ _ h
        next => apply h
      next =>
        cases inner with
        | nil => cases h
        | cons next inner =>
          simp only [List.cons_append] at h ⊢
          split at h
          next hkind =>
            rw [if_pos hkind]
            apply ihcontinuation _ _ _ _ h
          next hkind =>
            rw [if_neg hkind]
            apply h

/-- Takes the closing parenthesis behind an expression. -/
def close : Expr × List Token → Except ParseError (Expr × List Token)
  | (_, []) => .error (.unclosedParen none)
  | (inner, closing :: rest) =>
    if closing.kind = .rparen then .ok (inner, rest) else .error (.unclosedParen (some closing))

/-- In parentheses within `level`, the parser parses an expression and takes the closing parenthesis
by `close`. -/
theorem parseOperand_group (level : Level) (outer : List Level) (tokens : List Token) :
  parseOperand (.start .expression) (level :: outer) tokens
    = parseRule .expression tokens >>= close >>= fun (inner, rest) =>
      parseContinuation level outer inner rest
  := by
  cases hrule : parseRule .expression tokens with
  | error cause => apply (parse_error_append tokens (level :: outer)).1 _ [] _ hrule
  | ok answer =>
    obtain ⟨expr, rest⟩ := answer
    obtain ⟨taken, rfl, hderives, hstops⟩ := derives_of_parseRule hrule
    obtain ⟨sum, product, factor, rfl, habsorbs⟩ := absorbs_of_derives hderives
    rw [habsorbs]
    cases rest with
    | nil => rfl
    | cons closing rest =>
      have hstop : Rule.expression.continuation? closing.kind = none := hstops closing rfl
      simp only [parseContinuation, hstop]
      by_cases hkind : closing.kind = .rparen
      · simp [bind, Except.bind, close, hkind, Level.finish]
      · simp [bind, Except.bind, close, hkind]

theorem parseRule_group {opening : Token} (rest : List Token) (h : opening.kind = .lparen) :
  parseRule .factor (opening :: rest) = parseRule .expression rest >>= close
  := by
  have hclosed : (fun (answer : Expr × List Token) =>
      parseContinuation (.start .factor) [] answer.1 answer.2) = Except.ok := by
    funext answer
    apply parseContinuation_of_stops _ (Rule.stops_factor answer.2)
  simp only [parseRule, parseOperand, h]
  apply Eq.trans (parseOperand_group _ _ _)
  show _ >>= (fun (answer : Expr × List Token) =>
      parseContinuation (.start .factor) [] answer.1 answer.2) = _
  rw [hclosed]
  apply bind_pure

/-- Where an operand is due, the parser parses a factor, unless there are no `tokens` and `level`
has a part in the error. -/
theorem parseOperand_eq_bind {level : Level} {tokens : List Token} (outer : List Level)
    (h : tokens = [] → level ≠ .start .expression) :
  parseOperand level outer tokens = parseRule .factor tokens >>= fun (factor, rest) =>
    parseContinuation level outer factor rest
  := by
  cases tokens with
  | nil =>
    rw [parseOperand, Level.missingOperand, if_neg (h rfl)]
    rfl
  | cons token rest =>
    by_cases hkind : token.kind = .lparen
    · rw [parseRule_group rest hkind]
      simp only [parseOperand, hkind]
      apply parseOperand_group
    · unfold parseRule parseOperand
      split
      next =>
        split
        next =>
          rw [parseContinuation_of_stops _ (Rule.stops_factor rest)]
          rfl
        next => rfl
      next =>
        rw [parseContinuation_of_stops _ (Rule.stops_factor rest)]
        rfl
      next hparen => apply absurd hparen hkind
      next => rfl

/-! ### Operations -/

/-- A pending `product` may be completed with the `factor` before the parser goes on. -/
theorem parseContinuation_complete (rule : Rule) (sum product : Option Pending)
    (outer : List Level) (factor : Expr) (rest : List Token) :
  parseContinuation ⟨rule, sum, product⟩ outer factor rest
    = parseContinuation ⟨rule, sum, none⟩ outer (Pending.complete product factor) rest
  := by
  have hextend : ∀ op tier, Level.extend ⟨rule, sum, product⟩ factor op tier
      = Level.extend ⟨rule, sum, none⟩ (Pending.complete product factor) op tier := by
    intro op tier
    cases tier <;> rfl
  cases rest with
  | nil => rfl
  | cons token rest =>
    simp only [parseContinuation, hextend]
    rfl

/-- A pending `sum` may be completed with the `term` before the parser goes on, provided that `rest`
does not continue the term. -/
theorem parseContinuation_complete_sum (sum : Option Pending) (outer : List Level) (term : Expr)
    {rest : List Token} (h : Rule.term.Stops rest) :
  parseContinuation ⟨.expression, sum, none⟩ outer term rest
    = parseContinuation (.start .expression) outer (Pending.complete sum term) rest
  := by
  cases rest with
  | nil => rfl
  | cons sign rest =>
    cases hcontinues : Rule.expression.continuation? sign.kind with
    | none =>
      simp only [parseContinuation, Level.start, hcontinues]
      rfl
    | some tier =>
      -- Only a product would keep the sum and the term apart.
      have htier : tier = .sum := by
        have hterm := h sign rfl
        cases hkind : sign.kind <;> simp_all [Rule.continuation?]
      simp only [parseContinuation, Level.start, hcontinues, htier]
      rfl

/-- Behind a `factor` of an expression, the parser first parses the rest of the term. -/
theorem parseContinuation_eq_bind (sum : Option Pending) (outer : List Level) (factor : Expr)
    (rest : List Token) :
  parseContinuation ⟨.expression, sum, none⟩ outer factor rest
    = parseContinuation (.start .term) [] factor rest >>= fun (term, rest) =>
      parseContinuation ⟨.expression, sum, none⟩ outer term rest
  := by
  cases rest with
  | nil => rfl
  | cons sign rest =>
    cases hcontinues : Rule.term.continuation? sign.kind with
    | none =>
      have hstops : Rule.term.Stops (sign :: rest) := by simpa [Rule.Stops] using hcontinues
      have hterm : parseContinuation (.start .term) [] factor (sign :: rest)
          = .ok (factor, sign :: rest) := parseContinuation_of_stops factor hstops
      rw [hterm]
      rfl
    | some tier =>
      have hexpression : Rule.expression.continuation? sign.kind = some tier := by
        cases hkind : sign.kind <;> simp_all [Rule.continuation?]
      have htier : tier = .product := by
        cases hkind : sign.kind <;> simp_all [Rule.continuation?]
      cases hsymbol : Operator.ofSymbol? sign.text with
      | none =>
        simp only [parseContinuation, Level.start, hcontinues, hexpression, hsymbol]
        rfl
      | some op =>
        rw [parseContinuation_of_continues outer factor rest hexpression hsymbol,
          parseContinuation_of_continues [] factor rest hcontinues hsymbol, htier,
          parseOperand_eq_bind outer (by simp [Level.extend, Level.start]),
          parseOperand_eq_bind [] (by simp [Level.extend, Level.start])]
        cases hrule : parseRule .factor rest with
        | error cause => rfl
        | ok answer =>
          obtain ⟨right, later⟩ := answer
          obtain ⟨taken, hrest, -, -⟩ := derives_of_parseRule hrule
          have hshorter : later.length ≤ rest.length := by
            rw [hrest, List.length_append]
            omega
          show parseContinuation ⟨.expression, sum, some ⟨factor, op⟩⟩ outer right later
            = parseContinuation ⟨.term, none, some ⟨factor, op⟩⟩ [] right later >>= _
          rw [parseContinuation_complete, parseContinuation_complete .term]
          apply parseContinuation_eq_bind
termination_by rest.length

/-- The rule `term` begins with the rule `factor`. -/
theorem parseRule_term_eq_bind (tokens : List Token) :
  parseRule .term tokens = parseRule .factor tokens >>= fun (factor, rest) =>
    parseContinuation (.start .term) [] factor rest
  := parseOperand_eq_bind [] (by simp [Level.start])

/-- Where a term of an expression is due, the parser parses a term, unless there are no `tokens` and
`sum` has a part in the error. -/
theorem parseOperand_eq_bind_term {sum : Option Pending} {tokens : List Token} (outer : List Level)
    (h : tokens = [] → sum ≠ none) :
  parseOperand ⟨.expression, sum, none⟩ outer tokens
    = parseRule .term tokens >>= fun (term, rest) =>
      parseContinuation ⟨.expression, sum, none⟩ outer term rest
  := by
  have hstart : tokens = [] → (⟨.expression, sum, none⟩ : Level) ≠ .start .expression := by
    simpa [Level.start] using h
  rw [parseOperand_eq_bind outer hstart, parseRule_term_eq_bind]
  cases parseRule .factor tokens with
  | error cause => rfl
  | ok answer => apply parseContinuation_eq_bind

/-- The rule of an operation begins with `Tier.operand`, unless there are no `tokens` and `tier` has
a part in the error. -/
theorem parseRule_eq_bind (tier : Tier) {tokens : List Token} (h : tokens = [] → tier ≠ .sum) :
  parseRule tier.rule tokens = parseRule tier.operand tokens >>= fun (left, rest) =>
    parseContinuation (.start tier.rule) [] left rest
  := by
  cases tier with
  | sum =>
    apply parseOperand_eq_bind_term
    intro hempty
    apply absurd rfl (h hempty)
  | product => apply parseRule_term_eq_bind

/-- Behind the operator `op`, the parser parses `Tier.operand` and goes on with the operation. -/
theorem parseOperand_extend (tier : Tier) (left : Expr) (op : Operator) (tokens : List Token) :
  parseOperand (Level.extend (.start tier.rule) left op tier) [] tokens
    = parseRule tier.operand tokens >>= fun (right, rest) =>
      parseContinuation (.start tier.rule) [] (.binary op left right) rest
  := by
  cases tier with
  | sum =>
    apply Eq.trans (parseOperand_eq_bind_term [] (by simp))
    cases hrule : parseRule .term tokens with
    | error cause =>
      simp only [Tier.operand, hrule]
      rfl
    | ok answer =>
      obtain ⟨-, -, -, hstops⟩ := derives_of_parseRule hrule
      simp only [Tier.operand, hrule]
      apply parseContinuation_complete_sum _ _ _ hstops
  | product =>
    apply Eq.trans (parseOperand_eq_bind [] (by simp [Level.extend, Level.start]))
    cases hrule : parseRule .factor tokens with
    | error cause =>
      simp only [Tier.operand, hrule]
      rfl
    | ok answer =>
      simp only [Tier.operand, hrule]
      apply parseContinuation_complete

/-! ### Indices -/

/-- The `answer` for the last part of `tokens`, with the index of the first token left in place of
the tokens left. -/
def located (tokens : List Token) (answer : Except ParseError (Expr × List Token)) :
    Except ParseError (Expr × Nat) :=
  answer.map fun (expr, rest) => (expr, tokens.length - rest.length)

theorem parseAt_eq_located (rule : Rule) (tokens : List Token) (index : Nat) :
  parseAt rule tokens index = located tokens (parseRule rule (tokens.drop index))
  := by
  rw [parseAt]
  cases parseRule rule (tokens.drop index) <;> rfl

theorem located_ok {tokens : List Token} {next : Nat} (expr : Expr) (h : next ≤ tokens.length) :
  located tokens (.ok (expr, tokens.drop next)) = .ok (expr, next)
  := by
  simp [located, Except.map, Nat.sub_sub_self h]

/-- A `factor` that is a single token ends right behind it. -/
theorem located_factor {tokens : List Token} {index : Nat} (h : index < tokens.length)
    (factor : Expr) :
  located tokens (parseContinuation (.start .factor) [] factor (tokens.drop (index + 1)))
    = .ok (factor, index + 1)
  := by
  rw [parseContinuation_of_stops _ (Rule.stops_factor _)]
  apply located_ok factor h

/-- If `parseAt` answers at `index`, then `parseRule` answers for the tokens from there on, and at
least one of them is taken. -/
theorem parseRule_of_parseAt {rule : Rule} {tokens : List Token} {index next : Nat} {expr : Expr}
    (h : parseAt rule tokens index = .ok (expr, next)) :
  parseRule rule (tokens.drop index) = .ok (expr, tokens.drop next)
    ∧ index < next ∧ next ≤ tokens.length ∧ rule.Stops (tokens.drop next)
  := by
  obtain ⟨hle, hderives, hstops⟩ := parseAt_eq_ok_iff.mp h
  have hlt := hderives.lt_of_extract
  rw [drop_eq_extract_append tokens hlt.le]
  use parseRule_of_derives hderives hstops

theorem parseRule_of_parseAt_error {rule : Rule} {tokens : List Token} {index : Nat}
    {cause : ParseError} (h : parseAt rule tokens index = .error cause) :
  parseRule rule (tokens.drop index) = .error cause
  := by
  rw [parseAt_eq_located] at h
  apply Except.map_eq_error_iff.mp h

/-- If `token` is at `index`, then it is the first token from there on. -/
theorem drop_eq_cons {tokens : List Token} {token : Token} {index : Nat}
    (h : tokens[index]? = some token) :
  index < tokens.length ∧ tokens.drop index = token :: tokens.drop (index + 1)
  := by
  obtain ⟨hlt, rfl⟩ := List.getElem?_eq_some_iff.mp h
  use hlt, List.drop_eq_getElem_cons hlt

theorem drop_eq_nil {tokens : List Token} {index : Nat} (h : tokens[index]? = none) :
  tokens.drop index = []
  := List.drop_of_length_le (List.getElem?_eq_none_iff.mp h)

/-- With no more than `calls` calls nested, `descend` and `descendFurther` answer as the parser
does, wherever there are three calls for each token left. -/
structure Suffice (tokens : List Token) (calls : Nat) : Prop where
  rule : ∀ rule index, 3 * (tokens.length - index) + rule.height ≤ calls →
    descend tokens calls rule index = .mk (some (parseAt rule tokens index))
  further : ∀ tier left index, 3 * (tokens.length - index) < calls → index ≤ tokens.length →
    tier.operand.Stops (tokens.drop index) →
    descendFurther tokens calls tier left index
      = .mk (some (located tokens
        (parseContinuation (.start tier.rule) [] left (tokens.drop index))))

namespace Suffice

variable {tokens : List Token} {calls : Nat} {index : Nat}

/-- If `calls` suffice, then one more does for an expression in parentheses. -/
theorem group (h : Suffice tokens calls) {opening : Token}
    (hopening : tokens[index]? = some opening) (hkind : opening.kind = .lparen)
    (hcalls : 3 * (tokens.length - index) ≤ calls) :
  descend tokens (calls + 1) .factor index = .mk (some (parseAt .factor tokens index))
  := by
  obtain ⟨hlt, hdrop⟩ := drop_eq_cons hopening
  have hinner := h.rule .expression (index + 1) (by rw [Rule.height]; omega)
  simp only [descend, hopening, hkind]
  rw [hinner, parseAt_eq_located .factor, hdrop, parseRule_group _ hkind]
  cases hanswer : parseAt .expression tokens (index + 1) with
  | error cause =>
    rw [parseRule_of_parseAt_error hanswer]
    rfl
  | ok answer =>
    obtain ⟨inner, next⟩ := answer
    obtain ⟨hrule, -, hle, -⟩ := parseRule_of_parseAt hanswer
    rw [hrule]
    show (match tokens[next]? with
        | none => _
        | some closing => _) = ExceptT.mk (some (located tokens (close (inner, tokens.drop next))))
    cases hclosing : tokens[next]? with
    | none =>
      rw [drop_eq_nil hclosing]
      rfl
    | some closing =>
      obtain ⟨hlt, hdrop⟩ := drop_eq_cons hclosing
      rw [hdrop]
      simp only [close]
      split
      next =>
        rw [located_ok inner hlt]
        rfl
      next => rfl

/-- If `calls` suffice, then one more does for a factor. -/
theorem factor (h : Suffice tokens calls) (hcalls : 3 * (tokens.length - index) ≤ calls) :
  descend tokens (calls + 1) .factor index = .mk (some (parseAt .factor tokens index))
  := by
  cases htoken : tokens[index]? with
  | none =>
    rw [parseAt_eq_located, drop_eq_nil htoken]
    simp only [descend, htoken]
    rfl
  | some token =>
    obtain ⟨hlt, hdrop⟩ := drop_eq_cons htoken
    by_cases hgroup : token.kind = .lparen
    · apply h.group htoken hgroup hcalls
    · rw [parseAt_eq_located, hdrop]
      cases hkind : token.kind with
      | lparen => apply absurd hkind hgroup
      | number =>
        simp only [descend, htoken, hkind, parseRule, parseOperand]
        cases Decimal.read? token.text with
        | none => rfl
        | some value =>
          rw [located_factor hlt]
          rfl
      | identifier =>
        simp only [descend, htoken, hkind, parseRule, parseOperand]
        rw [located_factor hlt]
        rfl
      | _ =>
        simp only [descend, htoken, hkind, parseRule, parseOperand]
        rfl

/-- If `calls` suffice, then they do for an operand and what follows it, which is combined with it
by `combine`. -/
theorem operand (h : Suffice tokens calls) (tier : Tier) (combine : Expr → Expr)
    (hcalls : 3 * (tokens.length - index) + tier.operand.height ≤ calls) :
  (do
    let (operand, next) ← descend tokens calls tier.operand index
    descendFurther tokens calls tier (combine operand) next : Descent)
    = .mk (some (located tokens (parseRule tier.operand (tokens.drop index)
      >>= fun (operand, rest) =>
        parseContinuation (.start tier.rule) [] (combine operand) rest)))
  := by
  rw [h.rule _ _ hcalls]
  cases hanswer : parseAt tier.operand tokens index with
  | error cause =>
    rw [parseRule_of_parseAt_error hanswer]
    rfl
  | ok answer =>
    obtain ⟨operand, next⟩ := answer
    obtain ⟨hrule, hlt, hle, hstops⟩ := parseRule_of_parseAt hanswer
    rw [hrule]
    apply h.further tier (combine operand) next _ hle hstops
    omega

/-- If `calls` suffice, then one more does for the rule of an operation. -/
theorem operation (h : Suffice tokens calls) (tier : Tier)
    (hcalls : 3 * (tokens.length - index) + tier.operand.height ≤ calls) :
  descend tokens (calls + 1) tier.rule index = .mk (some (parseAt tier.rule tokens index))
  := by
  rw [parseAt_eq_located]
  cases tier with
  | sum =>
    by_cases hlength : tokens.length ≤ index
    · rw [List.drop_of_length_le hlength]
      simp only [Tier.rule, descend, if_pos hlength]
      rfl
    · have hne : tokens.drop index ≠ [] := by simpa using hlength
      rw [parseRule_eq_bind .sum (fun hempty => absurd hempty hne)]
      simp only [Tier.rule, descend, if_neg hlength]
      apply h.operand .sum id hcalls
  | product =>
    rw [parseRule_eq_bind .product (by simp)]
    simp only [Tier.rule, descend]
    apply h.operand .product id hcalls

/-- If `calls` suffice, then one more does to go on with an operation. -/
theorem furtherOperation (h : Suffice tokens calls) (tier : Tier) (left : Expr)
    (hcalls : 3 * (tokens.length - index) ≤ calls) (hle : index ≤ tokens.length)
    (hstops : tier.operand.Stops (tokens.drop index)) :
  descendFurther tokens (calls + 1) tier left index
    = .mk (some (located tokens
      (parseContinuation (.start tier.rule) [] left (tokens.drop index))))
  := by
  have hdone : tier.rule.Stops (tokens.drop index) →
      located tokens (parseContinuation (.start tier.rule) [] left (tokens.drop index))
        = .ok (left, index) := by
    intro hdone
    rw [parseContinuation_of_stops left hdone]
    apply located_ok left hle
  rw [descendFurther]
  cases hsign : tokens[index]? with
  | none =>
    rw [hdone (by simp [Rule.Stops, drop_eq_nil hsign])]
    rfl
  | some sign =>
    obtain ⟨hlt, hdrop⟩ := drop_eq_cons hsign
    rw [hdrop] at hstops
    have hcontinues := tier.continuation?_rule_eq (hstops sign rfl)
    by_cases hadmits : tier.Admits sign.kind
    · rw [if_pos hadmits] at hcontinues
      simp only [if_pos hadmits]
      cases hsymbol : Operator.ofSymbol? sign.text with
      | none =>
        rw [hdrop]
        simp only [parseContinuation, Level.start, hcontinues, hsymbol]
        rfl
      | some op =>
        rw [hdrop, parseContinuation_of_continues [] left _ hcontinues hsymbol, parseOperand_extend]
        apply h.operand tier (.binary op left)
        cases tier <;> simp only [Tier.operand, Rule.height] <;> omega
    · rw [if_neg hadmits] at hcontinues
      simp only [if_neg hadmits]
      rw [hdone (by simpa [Rule.Stops, hdrop] using hcontinues)]
      rfl

end Suffice

/-- Any number of `calls` suffices in this sense; with too few there is nothing to show. -/
theorem suffice_all (tokens : List Token) (calls : Nat) :
  Suffice tokens calls
  := by
  induction calls with
  | zero =>
    constructor
    · intro rule index h
      cases rule <;> cases h
    · intro tier left index h
      cases h
  | succ calls ih =>
    constructor
    · intro rule index h
      cases rule with
      | factor => apply ih.factor (Nat.le_of_succ_le_succ h)
      | term => apply ih.operation .product (Nat.le_of_succ_le_succ h)
      | expression => apply ih.operation .sum (Nat.le_of_succ_le_succ h)
    · intro tier left index h hle hstops
      apply ih.furtherOperation tier left (by omega) hle hstops

/-- The functions that call each other answer as `parseAt` does, provided that there are three
nested calls for each token left and those that `Rule.height` counts. -/
theorem descend_eq_parseAt {rule : Rule} {tokens : List Token} {index calls : Nat}
    (h : 3 * (tokens.length - index) + rule.height ≤ calls) :
  (descend tokens calls rule index).run = some (parseAt rule tokens index)
  := (suffice_all tokens calls).rule rule index h

end Expr

end IntScript
