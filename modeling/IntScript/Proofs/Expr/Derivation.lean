import IntScript.Expr.Grammar
import Mathlib.Tactic.Use

/-!
# Parsing is deriving

A rule is parsed at the front of the tokens exactly when it derives the tokens taken, and the
tokens that follow do not continue it.

In one direction, what the parser has read is kept track of: `Pending.Reads` for an operation
that waits for its right operand, `Level.Reads` for a level, and `ReadSoFar` for all the levels
around the current place.  Each move of the parser keeps the account.  In the other direction, a
derivation tells what the parser does with the tokens derived, whatever is around them.  As the
parser gives one answer, tokens have one tree.
-/

namespace IntScript

/-- The tokens `rest` do not continue `rule`. -/
def Rule.Stops (rule : Rule) (rest : List Token) : Prop :=
  ∀ token ∈ rest.head?, rule.continuation? token.kind = none

/-- The rule by which an operation, and its left operand, is derived. -/
def Tier.rule : Tier → Rule
  | sum => .expression
  | product => .term

/-- The rule by which the right operand of an operation is derived. -/
def Tier.operand : Tier → Rule
  | sum => .term
  | product => .factor

/-- The kinds of the operators of an operation. -/
def Tier.Admits : Tier → Kind → Prop
  | sum, kind => kind = .plus ∨ kind = .minus
  | product, kind => kind = .multiply ∨ kind = .divide

/-- An operand derived by `Tier.operand` is derived by `Tier.rule` as well. -/
theorem Derives.operand {tier : Tier} {tokens : List Token} {expr : Expr}
    (h : Derives tier.operand tokens expr) :
  Derives tier.rule tokens expr
  := by
  cases tier with
  | sum => apply Derives.term h
  | product => apply Derives.factor h

/-- Sums and products are derived alike, from a `first` operand, a `sign` and a `second` operand. -/
theorem Derives.operation {tier : Tier} {ls rs : List Token} {sign : Token} {left right : Expr}
    {op : Operator} (first : Derives tier.rule ls left) (kind : tier.Admits sign.kind)
    (symbol : Operator.ofSymbol? sign.text = some op) (second : Derives tier.operand rs right) :
  Derives tier.rule (ls ++ sign :: rs) (.binary op left right)
  := by
  cases tier with
  | sum => apply Derives.sum first kind symbol second
  | product => apply Derives.product first kind symbol second

/-- If `kind` continues `rule` with an operation of `tier`, then `tier` admits it. -/
theorem Tier.admits_of_continuation? {rule : Rule} {kind : Kind} {tier : Tier}
    (h : rule.continuation? kind = some tier) :
  tier.Admits kind
  := by
  cases rule <;> cases kind <;> cases h <;> simp [Admits]

/-- A closing parenthesis continues no rule. -/
@[simp]
theorem Rule.continuation?_rparen (rule : Rule) :
  rule.continuation? .rparen = none
  := by
  cases rule <;> rfl

/-! ### What has been read -/

/-- The tokens read of an operation that waits for its right operand: `Tier.rule` derives its left
operand, and a sign follows. -/
inductive Pending.Reads (tier : Tier) : Option Pending → List Token → Prop where
  | none : Reads tier none []
  | some {ls : List Token} {sign : Token} {left : Expr} {op : Operator}
      (first : Derives tier.rule ls left) (kind : tier.Admits sign.kind)
      (symbol : Operator.ofSymbol? sign.text = some op) :
      Reads tier (some ⟨left, op⟩) (ls ++ [sign])

/-- If `ts` are the tokens of a `pending` operation, then they and the tokens `us` of its right
operand derive the operation. -/
theorem Pending.Reads.derives_complete {tier : Tier} {pending : Option Pending}
    {ts us : List Token} {operand : Expr} (h : Pending.Reads tier pending ts)
    (hoperand : Derives tier.operand us operand) :
  Derives tier.rule (ts ++ us) (Pending.complete pending operand)
  := by
  cases h with
  | none => apply hoperand.operand
  | some first kind symbol =>
    rw [List.append_assoc]
    apply Derives.operation first kind symbol hoperand

/-- The tokens read of a level: only an expression has room for a sum, and a factor has room for no
operation at all. -/
inductive Level.Reads : Level → List Token → Prop where
  | factor : Reads ⟨.factor, none, none⟩ []
  | term {product : Option Pending} {ts : List Token}
      (hproduct : Pending.Reads .product product ts) :
      Reads ⟨.term, none, product⟩ ts
  | expression {sum product : Option Pending} {ts us : List Token}
      (hsum : Pending.Reads .sum sum ts) (hproduct : Pending.Reads .product product us) :
      Reads ⟨.expression, sum, product⟩ (ts ++ us)

namespace Level.Reads

/-- At the start of a level no tokens have been read. -/
theorem start (rule : Rule) :
  Level.Reads (Level.start rule) []
  := by
  cases rule with
  | expression => apply Level.Reads.expression Pending.Reads.none Pending.Reads.none
  | term => apply Level.Reads.term Pending.Reads.none
  | factor => apply Level.Reads.factor

variable {level : Level} {ts us : List Token} {factor : Expr}

/-- If `ts` have been read of `level`, then they and the tokens `us` of a factor derive the
expression that the factor finishes. -/
theorem derives_finish (h : level.Reads ts) (hfactor : Derives .factor us factor) :
  Derives level.rule (ts ++ us) (level.finish factor)
  := by
  cases h with
  | factor => apply hfactor
  | term hproduct => apply hproduct.derives_complete hfactor
  | expression hsum hproduct =>
    rw [List.append_assoc]
    apply hsum.derives_complete (hproduct.derives_complete hfactor)

/-- If `ts` have been read of `level`, then they, the tokens `us` of a factor and a `sign` have been
read of the level extended by the operator. -/
theorem extend {sign : Token} {op : Operator} {tier : Tier} (h : level.Reads ts)
    (hfactor : Derives .factor us factor)
    (hcontinues : level.rule.continuation? sign.kind = some tier)
    (hsymbol : Operator.ofSymbol? sign.text = some op) :
  (level.extend factor op tier).Reads (ts ++ us ++ [sign])
  := by
  have hkind := Tier.admits_of_continuation? hcontinues
  cases h with
  | factor => cases hcontinues
  | term hproduct =>
    cases tier with
    | sum => rcases hkind with hkind | hkind <;> simp [hkind, Rule.continuation?] at hcontinues
    | product =>
      apply Level.Reads.term
      apply Pending.Reads.some _ hkind hsymbol
      apply hproduct.derives_complete hfactor
  | expression hsum hproduct =>
    cases tier with
    | sum =>
      rw [← List.append_nil (_ ++ [sign]), List.append_assoc _ _ us]
      apply Level.Reads.expression _ Pending.Reads.none
      apply Pending.Reads.some _ hkind hsymbol
      apply hsum.derives_complete (hproduct.derives_complete hfactor)
    | product =>
      rw [List.append_assoc, List.append_assoc]
      apply Level.Reads.expression hsum
      rw [← List.append_assoc]
      apply Pending.Reads.some _ hkind hsymbol
      apply hproduct.derives_complete hfactor

end Level.Reads

/-- The tokens read for `rule` while the parser is inside of some levels, the innermost first: the
outermost is one of `rule` itself, and each other one is behind an opening parenthesis. -/
inductive ReadSoFar (rule : Rule) : Level → List Level → List Token → Prop where
  | base {level : Level} {ts : List Token} (reads : level.Reads ts) (bottom : level.rule = rule) :
      ReadSoFar rule level [] ts
  | inside {level next : Level} {outer : List Level} {opening : Token} {ts us : List Token}
      (around : ReadSoFar rule next outer ts) (opens : opening.kind = .lparen)
      (reads : level.Reads us) (inner : level.rule = .expression) :
      ReadSoFar rule level (next :: outer) (ts ++ opening :: us)

/-- The operator `op` behind a factor extends the innermost `level` only. -/
theorem ReadSoFar.extend {rule : Rule} {level : Level} {outer : List Level} {ts us : List Token}
    {factor : Expr} {sign : Token} {op : Operator} {tier : Tier}
    (h : ReadSoFar rule level outer ts) (hfactor : Derives .factor us factor)
    (hcontinues : level.rule.continuation? sign.kind = some tier)
    (hsymbol : Operator.ofSymbol? sign.text = some op) :
  ReadSoFar rule (level.extend factor op tier) outer (ts ++ us ++ [sign])
  := by
  have hrule : (level.extend factor op tier).rule = level.rule := by
    cases tier <;> rfl
  cases h with
  | base reads bottom =>
    apply ReadSoFar.base (reads.extend hfactor hcontinues hsymbol)
    rw [hrule, bottom]
  | inside around opens reads inner =>
    have := ReadSoFar.inside around opens (reads.extend hfactor hcontinues hsymbol)
      (hrule.trans inner)
    simpa using this

/-- The `answer` for `tokens`, behind the tokens `read` before: `rule` derives its tree from those
read and those taken, and stops before the rest. -/
def Answers (rule : Rule) (read tokens : List Token) (answer : Expr × List Token) : Prop :=
  ∃ taken, tokens = taken ++ answer.2 ∧ Derives rule (read ++ taken) answer.1
    ∧ rule.Stops answer.2

/-- A `token` that is read already may be counted among those taken. -/
theorem Answers.cons {rule : Rule} {read rest : List Token} {token : Token}
    {answer : Expr × List Token} (h : Answers rule (read ++ [token]) rest answer) :
  Answers rule read (token :: rest) answer
  := by
  obtain ⟨taken, htokens, hderives, hstops⟩ := h
  use token :: taken
  constructor
  · rw [htokens, List.cons_append]
  · rw [List.append_cons]
    use hderives

namespace Expr

/-- What the parser answers is derived by `rule`.  The induction is on the tokens; the two conjuncts
are the two places in which the parser can be, and they go through it together. -/
theorem parse_answers (rule : Rule) (tokens : List Token) :
  (∀ level outer read answer, ReadSoFar rule level outer read →
      parseOperand level outer tokens = .ok answer → Answers rule read tokens answer)
    ∧ ∀ level outer read us factor answer, ReadSoFar rule level outer read →
      Derives .factor us factor → parseContinuation level outer factor tokens = .ok answer →
      Answers rule (read ++ us) tokens answer
  := by
  induction tokens with
  | nil =>
    constructor
    · intro level outer read answer _ h
      simp [parseOperand] at h
    · intro level outer read us factor answer hread hfactor h
      cases hread with
      | base reads bottom =>
        simp only [parseContinuation, Except.ok.injEq] at h
        subst h
        use []
        simp only [List.append_nil, true_and, ← bottom]
        use reads.derives_finish hfactor
        simp [Rule.Stops]
      | inside => simp [parseContinuation] at h
  | cons token rest ih =>
    obtain ⟨ihoperand, ihcontinuation⟩ := ih
    constructor
    · intro level outer read answer hread h
      apply Answers.cons
      unfold parseOperand at h
      split at h
      next hkind =>
        split at h
        next value hvalue =>
          apply ihcontinuation level outer read [token] _ answer hread _ h
          apply Derives.number hkind hvalue
        next => cases h
      next hkind =>
        apply ihcontinuation level outer read [token] _ answer hread _ h
        apply Derives.name hkind
      next hkind =>
        apply ihoperand _ _ _ answer _ h
        apply ReadSoFar.inside hread hkind (Level.Reads.start .expression) rfl
      next => cases h
    · intro level outer read us factor answer hread hfactor h
      unfold parseContinuation at h
      split at h
      next tier htier =>
        split at h
        next op hop =>
          apply Answers.cons
          apply ihoperand _ _ _ answer _ h
          apply hread.extend hfactor htier hop
        next => cases h
      next hstop =>
        cases hread with
        | base reads bottom =>
          simp only [Except.ok.injEq] at h
          subst h
          use []
          simp only [List.append_nil, List.nil_append, true_and, ← bottom]
          use reads.derives_finish hfactor
          simpa [Rule.Stops] using hstop
        | @inside _ next outer opening ts vs around opens reads inner =>
          simp only at h
          split at h
          next hkind =>
            have hgroup := reads.derives_finish hfactor
            rw [inner] at hgroup
            have := ihcontinuation _ _ _ _ _ answer around (Derives.group opens hgroup hkind) h
            apply Answers.cons
            simpa using this
          next => cases h

/-- If `parseRule` leaves `rest`, then `rule` derives the tree from the tokens before, and stops
there. -/
theorem derives_of_parseRule {rule : Rule} {tokens rest : List Token} {expr : Expr}
    (h : parseRule rule tokens = .ok (expr, rest)) :
  ∃ taken, tokens = taken ++ rest ∧ Derives rule taken expr ∧ rule.Stops rest
  := by
  apply (parse_answers rule tokens).1 _ _ [] _ _ h
  apply ReadSoFar.base (Level.Reads.start rule) rfl

/-! ### What a derivation makes the parser do -/

/-- If `rest` stops the rule of `level`, then the parser is done, provided that it is outside of all
parentheses. -/
theorem parseContinuation_of_stops {level : Level} {rest : List Token} (factor : Expr)
    (h : level.rule.Stops rest) :
  parseContinuation level [] factor rest = .ok (level.finish factor, rest)
  := by
  cases rest with
  | nil => simp only [parseContinuation]
  | cons token rest =>
    have hstop : level.rule.continuation? token.kind = none := by
      apply h token rfl
    simp only [parseContinuation, hstop]

/-- If the kind of `sign` continues the rule of `level`, then the parser extends the level by the
operator. -/
theorem parseContinuation_of_continues {level : Level} {sign : Token} {tier : Tier} {op : Operator}
    (outer : List Level) (factor : Expr) (rest : List Token)
    (hcontinues : level.rule.continuation? sign.kind = some tier)
    (hsymbol : Operator.ofSymbol? sign.text = some op) :
  parseContinuation level outer factor (sign :: rest)
    = parseOperand (level.extend factor op tier) outer rest
  := by
  simp only [parseContinuation, hcontinues, hsymbol]

/-- If `closing` is a closing parenthesis, then the parser finishes `level` and goes on in the
`next` one. -/
theorem parseContinuation_of_closes {closing : Token} (level next : Level) (outer : List Level)
    (factor : Expr) (rest : List Token) (hcloses : closing.kind = .rparen) :
  parseContinuation level (next :: outer) factor (closing :: rest)
    = parseContinuation next outer (level.finish factor) rest
  := by
  simp [parseContinuation, hcloses]

/-- What the parser does with the tokens of `expr` where an operand is due: it gets right behind
their last factor, with the operations before that factor pending. -/
def Absorbs : Rule → List Token → Expr → Prop
  | .factor, tokens, expr => ∀ level outer rest,
    parseOperand level outer (tokens ++ rest) = parseContinuation level outer expr rest
  | .term, tokens, expr => ∃ product factor, Pending.complete product factor = expr
    ∧ ∀ rule sum outer rest, rule ≠ .factor →
      parseOperand ⟨rule, sum, none⟩ outer (tokens ++ rest)
        = parseContinuation ⟨rule, sum, product⟩ outer factor rest
  | .expression, tokens, expr => ∃ sum product factor,
    Pending.complete sum (Pending.complete product factor) = expr
    ∧ ∀ outer rest, parseOperand (.start .expression) outer (tokens ++ rest)
      = parseContinuation ⟨.expression, sum, product⟩ outer factor rest

/-- If a rule derives `expr` from `tokens`, then the parser absorbs them. -/
theorem absorbs_of_derives {rule : Rule} {tokens : List Token} {expr : Expr}
    (h : Derives rule tokens expr) :
  Absorbs rule tokens expr
  := by
  induction h with
  | number kind read =>
    intro level outer rest
    simp [parseOperand, kind, read]
  | name kind =>
    intro level outer rest
    simp [parseOperand, kind]
  | @group opening closing tokens expr opens _ closes ih =>
    intro level outer rest
    obtain ⟨sum, product, factor, hexpr, ih⟩ := ih
    calc parseOperand level outer (opening :: tokens ++ [closing] ++ rest)
      _ = parseOperand (.start .expression) (level :: outer) (tokens ++ closing :: rest) := by
        simp [parseOperand, opens]
      _ = parseContinuation ⟨.expression, sum, product⟩ (level :: outer) factor
            (closing :: rest) := ih _ _
      _ = parseContinuation level outer expr rest := by
        rw [parseContinuation_of_closes _ _ _ _ _ closes, Level.finish, hexpr]
  | @factor tokens expr _ ih =>
    use none, expr, rfl
    intro rule sum outer rest _
    apply ih
  | @product ls rs sign left right op _ kind symbol _ ihleft ihright =>
    obtain ⟨product, factor, hleft, ihleft⟩ := ihleft
    use some ⟨left, op⟩, right, rfl
    intro rule sum outer rest hrule
    have hcontinues : rule.continuation? sign.kind = some .product := by
      rcases kind with kind | kind <;> cases rule <;> simp_all [Rule.continuation?]
    rw [List.append_assoc, List.cons_append, ihleft _ _ _ _ hrule,
      parseContinuation_of_continues _ _ _ hcontinues symbol, ihright, Level.extend, hleft]
  | @term tokens expr _ ih =>
    obtain ⟨product, factor, hexpr, ih⟩ := ih
    use none, product, factor, hexpr
    intro outer rest
    apply ih .expression none outer rest
    simp
  | @sum ls rs sign left right op _ kind symbol _ ihleft ihright =>
    obtain ⟨sum, product, factor, hleft, ihleft⟩ := ihleft
    obtain ⟨product', factor', hright, ihright⟩ := ihright
    use some ⟨left, op⟩, product', factor'
    constructor
    · rw [hright]
      rfl
    · intro outer rest
      have hcontinues : Rule.expression.continuation? sign.kind = some .sum := by
        rcases kind with kind | kind <;> simp [kind, Rule.continuation?]
      rw [List.append_assoc, List.cons_append, ihleft,
        parseContinuation_of_continues _ _ _ hcontinues symbol, Level.extend, Level.finish, hleft]
      apply ihright
      simp

/-- If `rule` derives `expr` from `tokens` and stops before `rest`, then it is parsed so. -/
theorem parseRule_of_derives {rule : Rule} {tokens rest : List Token} {expr : Expr}
    (h : Derives rule tokens expr) (hstops : rule.Stops rest) :
  parseRule rule (tokens ++ rest) = .ok (expr, rest)
  := by
  have habsorbs := absorbs_of_derives h
  cases rule with
  | expression =>
    obtain ⟨sum, product, factor, rfl, habsorbs⟩ := habsorbs
    rw [parseRule, habsorbs, parseContinuation_of_stops _ hstops, Level.finish]
  | term =>
    obtain ⟨product, factor, rfl, habsorbs⟩ := habsorbs
    rw [parseRule, Level.start, habsorbs _ _ _ _ (by simp), parseContinuation_of_stops _ hstops]
    rfl
  | factor =>
    rw [parseRule, habsorbs, parseContinuation_of_stops _ hstops]
    rfl

/-- If `rule` derives `expr` from `tokens`, then it is parsed and no tokens are left. -/
theorem parseRule_of_derives_all {rule : Rule} {tokens : List Token} {expr : Expr}
    (h : Derives rule tokens expr) :
  parseRule rule tokens = .ok (expr, [])
  := by
  have hstops : rule.Stops [] := by simp [Rule.Stops]
  have hrule := parseRule_of_derives h hstops
  rw [List.append_nil] at hrule
  apply hrule

/-- By `parseRule`, a tree is parsed if and only if `rule` derives it from the tokens `taken`, and
stops before the `rest`. -/
theorem parseRule_eq_ok_iff {rule : Rule} {tokens rest : List Token} {expr : Expr} :
  parseRule rule tokens = .ok (expr, rest)
    ↔ ∃ taken, tokens = taken ++ rest ∧ Derives rule taken expr ∧ rule.Stops rest
  := by
  constructor
  · apply derives_of_parseRule
  · rintro ⟨taken, rfl, hderives, hstops⟩
    apply parseRule_of_derives hderives hstops

/-- By `parse`, a tree is parsed if and only if the rule `expression` derives it from all the
`tokens`. -/
theorem parse_eq_ok_iff {tokens : List Token} {expr : Expr} :
  parse tokens = .ok expr ↔ Derives .expression tokens expr
  := by
  constructor
  · intro h
    unfold parse at h
    split at h
    next hrule =>
      cases h
      obtain ⟨taken, rfl, hderives, -⟩ := derives_of_parseRule hrule
      rw [List.append_nil]
      apply hderives
    next => cases h
    next => cases h
  · intro h
    rw [parse, parseRule_of_derives_all h]

end Expr

/-- A `rule` derives at most one tree from given `tokens`. -/
theorem Derives.unique {rule : Rule} {tokens : List Token} {a b : Expr}
    (ha : Derives rule tokens a) (hb : Derives rule tokens b) :
  a = b
  := by
  have hparse := Expr.parseRule_of_derives_all ha
  rw [Expr.parseRule_of_derives_all hb] at hparse
  cases hparse
  rfl

end IntScript
