import IntScript.Proofs.Except
import IntScript.Proofs.Expr.Derivation
import IntScript.Statement.Grammar
import Mathlib.Data.List.Basic
import Mathlib.Data.Set.Subsingleton

/-!
# The grammar is what the parser accepts

The parser accepts the tokens of a statement exactly when the grammar derives them, and the tree
it builds is the one of the derivation.  Together with the same fact about expressions this says
all there is to say about the trees that are read: `parse_ok_iff_derives`.
-/

namespace IntScript

/-- No expression is derived from an empty list of `tokens`. -/
theorem Derives.ne_nil {rule : Rule} {tokens : List Token} {expr : Expr}
    (h : Derives rule tokens expr) :
  tokens ≠ []
  := by
  induction h with
  | number => simp
  | name => simp
  | group => simp
  | factor _ ih => apply ih
  | product => simp
  | term _ ih => apply ih
  | sum => simp

namespace Statement

/-- By `parsePrint`, the `tokens` between the parentheses are parsed as an expression, unless there
are none. -/
theorem parsePrint_enclosed {opening closing : Token} (tokens : List Token)
    (opens : opening.kind = .lparen) (closes : closing.kind = .rparen) :
  parsePrint (opening :: (tokens ++ [closing]))
    = if tokens = [] then .ok (.print none)
      else (Expr.parse tokens).map fun value => .print (some value)
  := by
  simp [parsePrint, opens, closes]

/-- If `parsePrint` succeeds, then the first and the last of the `tokens` are parentheses. -/
theorem enclosed_of_parsePrint {tokens : List Token} {statement : Statement}
    (h : parsePrint tokens = .ok statement) :
  ∃ opening inner closing, tokens = opening :: (inner ++ [closing])
    ∧ opening.kind = .lparen ∧ closing.kind = .rparen
  := by
  cases tokens with
  | nil => simp [parsePrint] at h
  | cons opening rest =>
    rw [parsePrint] at h
    split at h
    next => cases h
    next hopens =>
      split at h
      next => cases h
      next closing hlast =>
        split at h
        next => cases h
        next hcloses =>
          use opening, rest.dropLast, closing
          rw [List.dropLast_append_getLast? closing hlast]
          use rfl, Decidable.of_not_not hopens, Decidable.of_not_not hcloses

/-- If `tokens` are parsed as `statement`, then it is derived from them. -/
theorem derives_of_parse {tokens : List Token} {statement : Statement}
    (h : parse tokens = .ok statement) :
  Statement.Derives tokens statement
  := by
  unfold parse at h
  split at h
  next => cases h
  next first rest =>
    split at h
    next rest' hkind =>
      obtain ⟨opening, inner, closing, rfl, opens, closes⟩ := enclosed_of_parsePrint h
      rw [parsePrint_enclosed inner opens closes] at h
      split at h
      next hinner =>
        cases h
        rw [hinner]
        apply Derives.printEmpty hkind opens closes
      next =>
        obtain ⟨value, hvalue, rfl⟩ := Except.map_eq_ok_iff.mp h
        apply Derives.print hkind opens (Expr.parse_eq_ok_iff.mp hvalue) closes
    next second value hkind =>
      split at h
      next hsecond =>
        obtain ⟨value, hvalue, rfl⟩ := Except.map_eq_ok_iff.mp h
        apply Derives.assign hkind hsecond (Expr.parse_eq_ok_iff.mp hvalue)
      next => cases h
    next => cases h

/-- If `statement` is derived from `tokens`, then they are parsed as it. -/
theorem parse_of_derives {tokens : List Token} {statement : Statement}
    (h : Statement.Derives tokens statement) :
  parse tokens = .ok statement
  := by
  cases h with
  | @printEmpty keyword opening closing starts opens closes =>
    have hprint := parsePrint_enclosed [] opens closes
    simp only [parse, starts]
    apply hprint
  | @print keyword opening closing tokens expr starts opens value closes =>
    simp only [parse, List.cons_append, starts]
    rw [parsePrint_enclosed tokens opens closes, if_neg value.ne_nil,
      Expr.parse_eq_ok_iff.mpr value]
    rfl
  | @assign name equals tokens expr starts sign value =>
    simp only [parse, starts, sign, if_true]
    rw [Expr.parse_eq_ok_iff.mpr value]
    rfl

/-- By `Statement.parse`, a statement is parsed if and only if it is derived. -/
theorem parse_eq_ok_iff {tokens : List Token} {statement : Statement} :
  parse tokens = .ok statement ↔ Statement.Derives tokens statement
  := by
  constructor
  · apply derives_of_parse
  · apply parse_of_derives

end Statement

/-- By `Expr.parse` and `Statement.parse`, exactly what is derived is parsed, and no `tokens` have
two trees by the same `rule`. -/
theorem parse_ok_iff_derives :
  (∀ tokens expr, Expr.parse tokens = .ok expr ↔ Derives .expression tokens expr)
    ∧ (∀ tokens statement,
        Statement.parse tokens = .ok statement ↔ Statement.Derives tokens statement)
    ∧ (∀ rule tokens, {expr | Derives rule tokens expr}.Subsingleton)
    ∧ ∀ tokens, {statement | Statement.Derives tokens statement}.Subsingleton
  := by
  refine ⟨?_, ?_, ?_, ?_⟩
  · intro tokens expr
    apply Expr.parse_eq_ok_iff
  · intro tokens statement
    apply Statement.parse_eq_ok_iff
  · intro rule tokens a ha b hb
    apply Derives.unique ha hb
  · intro tokens a ha b hb
    have hparse := Statement.parse_of_derives ha
    rw [Statement.parse_of_derives hb] at hparse
    cases hparse
    rfl

end IntScript
