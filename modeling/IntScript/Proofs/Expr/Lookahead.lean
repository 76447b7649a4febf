import IntScript.Proofs.Statement.Derivation

/-!
# Parsing from an index on

A rule that is parsed from an index on takes up the tokens from there to the index that it returns,
and looks at one more token at most, to see that it is not continued
(`Expr.parseAt_eq_ok_iff`).  Hence neither the tokens in front of the index nor those further back
have a part in the answer: more tokens in front shift it, and with other tokens around it stays what
it is (`Expr.parseAt_shifts_and_looks_ahead`).
-/

namespace IntScript

namespace Rule

/-- The kinds of the operators that a rule goes on with behind an operand. -/
def operators : Rule → List Kind
  | expression => [.plus, .minus, .multiply, .divide]
  | term => [.multiply, .divide]
  | factor => []

theorem continuation?_eq_none_iff {rule : Rule} {kind : Kind} :
  rule.continuation? kind = none ↔ kind ∉ rule.operators
  := by
  cases rule <;> cases kind <;> simp [continuation?, operators]

/-- A rule stops at `index` if and only if the token there is of none of the kinds in
`Rule.operators`. -/
theorem stops_drop_iff {rule : Rule} {tokens : List Token} {index : Nat} :
  rule.Stops (tokens.drop index) ↔ ∀ token ∈ tokens[index]?, token.kind ∉ rule.operators
  := by
  simp only [Stops, List.head?_drop, continuation?_eq_none_iff]

end Rule

/-- If an expression is derived from the tokens between `index` and `next`, then there are some. -/
theorem Derives.lt_of_extract {rule : Rule} {tokens : List Token} {index next : Nat} {expr : Expr}
    (h : Derives rule (tokens.extract index next) expr) :
  index < next
  := by
  have hpos := List.length_pos_iff.mpr h.ne_nil
  rw [List.extract_eq_take_drop, List.length_take] at hpos
  omega

namespace Expr

variable {rule : Rule} {tokens : List Token} {index next : Nat} {expr : Expr}

/-- The tokens from `index` on are those between `index` and `next`, and those from `next` on. -/
theorem drop_eq_extract_append (tokens : List Token) (h : index ≤ next) :
  tokens.drop index = tokens.extract index next ++ tokens.drop next
  := by
  rw [← Nat.add_sub_of_le h, ← List.drop_drop, Nat.add_sub_of_le h, List.extract_eq_take_drop,
    List.take_append_drop]

/-- By `parseAt`, the answer is `expr` and `next` if and only if `rule` derives `expr` from the
tokens between `index` and `next`, and stops there. -/
theorem parseAt_eq_ok_iff :
  parseAt rule tokens index = .ok (expr, next)
    ↔ next ≤ tokens.length ∧ Derives rule (tokens.extract index next) expr
      ∧ rule.Stops (tokens.drop next)
  := by
  constructor
  · intro h
    unfold parseAt at h
    split at h
    next expr rest hrule =>
      obtain ⟨taken, hdrop, hderives, hstops⟩ := derives_of_parseRule hrule
      have hpos := List.length_pos_iff.mpr hderives.ne_nil
      have hlength : tokens.length - index = taken.length + rest.length := by
        rw [← List.length_drop, hdrop, List.length_append]
      have hnext : tokens.length - rest.length = index + taken.length := by omega
      have htaken : tokens.extract index (index + taken.length) = taken := by
        rw [List.extract_eq_take_drop, hdrop, Nat.add_sub_cancel_left, List.take_left]
      have hrest : tokens.drop (index + taken.length) = rest := by
        rw [← List.drop_drop, hdrop, List.drop_left]
      cases h
      rw [hnext, htaken, hrest]
      use by omega
    next => cases h
  · rintro ⟨hle, hderives, hstops⟩
    have hlt := hderives.lt_of_extract
    rw [parseAt, drop_eq_extract_append tokens hlt.le, parseRule_of_derives hderives hstops]
    simp only [List.length_drop, Nat.sub_sub_self hle]

/-- To parse `tokens` behind the tokens `before` shifts the answer by the number of those. -/
theorem parseAt_append (rule : Rule) (before tokens : List Token) (index : Nat) :
  parseAt rule (before ++ tokens) (before.length + index)
    = (parseAt rule tokens index).map fun (expr, next) => (expr, next + before.length)
  := by
  rw [parseAt, parseAt, List.drop_length_add_append]
  cases hrule : parseRule rule (tokens.drop index) with
  | error cause => rfl
  | ok answer =>
    obtain ⟨expr, rest⟩ := answer
    obtain ⟨taken, hdrop, -, -⟩ := derives_of_parseRule hrule
    have hlength : tokens.length - index = taken.length + rest.length := by
      rw [← List.length_drop, hdrop, List.length_append]
    have hnext : before.length + tokens.length - rest.length
        = tokens.length - rest.length + before.length := by
      omega
    simp only [Except.map, List.length_append, hnext]

/-- Lists that agree between `index` and `next` have the same tokens there. -/
theorem extract_eq_of_agree {others : List Token}
    (h : ∀ i, index ≤ i → i < next → others[i]? = tokens[i]?) :
  others.extract index next = tokens.extract index next
  := by
  apply List.ext_getElem?
  intro i
  rw [List.extract_eq_take_drop, List.extract_eq_take_drop, List.getElem?_take, List.getElem?_take,
    List.getElem?_drop, List.getElem?_drop]
  split
  next hi => apply h <;> omega
  next => rfl

/-- If `others` agree with `tokens` between `index` and `next`, and their token at `next` does not
continue `rule`, then they have the same answer. -/
theorem parseAt_of_agree {others : List Token} (h : parseAt rule tokens index = .ok (expr, next))
    (hsame : ∀ i, index ≤ i → i < next → others[i]? = tokens[i]?)
    (hstop : ∀ token ∈ others[next]?, token.kind ∉ rule.operators) :
  parseAt rule others index = .ok (expr, next)
  := by
  obtain ⟨hle, hderives, -⟩ := parseAt_eq_ok_iff.mp h
  have hlt := hderives.lt_of_extract
  -- The last token that is taken is there in the other list too.
  have hlast := hsame (next - 1) (by omega) (by omega)
  rw [List.getElem?_eq_getElem (by omega : next - 1 < tokens.length)] at hlast
  obtain ⟨hlast, -⟩ := List.getElem?_eq_some_iff.mp hlast
  rw [parseAt_eq_ok_iff, extract_eq_of_agree hsame, Rule.stops_drop_iff]
  use by omega, hderives

/-- For each `rule`, the answer of `parseAt` behind the tokens `before` is the one without them,
with the index shifted by their number, or the same error.  An expression that is parsed between
`index` and `next` is parsed again from `others` that agree there, unless their token at `next` is
one of `Rule.operators`. -/
theorem parseAt_shifts_and_looks_ahead (rule : Rule) :
  (∀ before tokens index, parseAt rule (before ++ tokens) (before.length + index)
    = (parseAt rule tokens index).map fun (expr, next) => (expr, next + before.length))
  ∧ ∀ tokens index expr next, parseAt rule tokens index = .ok (expr, next) →
    ∀ others : List Token, (∀ i, index ≤ i → i < next → others[i]? = tokens[i]?) →
      (∀ token ∈ others[next]?, token.kind ∉ rule.operators) →
      parseAt rule others index = .ok (expr, next)
  := by
  constructor
  · intro before tokens index
    apply parseAt_append
  · intro tokens index expr next h others hsame hstop
    apply parseAt_of_agree h hsame hstop

/-- The `term` ends in front of a minus sign among `tokens`, and is the same in front of a closing
parenthesis at the end of `others`, and with other tokens in front of it.  Its sign has the kind of
a product and the text of a sum. -/
theorem parseAt_shifts_and_looks_ahead_of_term :
  let term : List Token := [⟨.number, "2"⟩, ⟨.multiply, "+"⟩, ⟨.identifier, "b"⟩]
  let tokens : List Token := [⟨.identifier, "a"⟩, ⟨.equals, "="⟩] ++ term
    ++ [⟨.minus, "-"⟩, ⟨.identifier, "c"⟩]
  let others : List Token := [⟨.lparen, "("⟩, ⟨.lparen, "("⟩] ++ term ++ [⟨.rparen, ")"⟩]
  parseAt .term tokens 2 = .ok (.binary .add (.num 2) (.name "b"), 5)
  ∧ (∀ i < 5, 2 ≤ i → others[i]? = tokens[i]?)
  ∧ (∀ token ∈ others[5]?, token.kind ∉ Rule.term.operators)
  ∧ parseAt .term others 2 = .ok (.binary .add (.num 2) (.name "b"), 5)
  := by
  intro term tokens others
  have hterm : parseAt .term tokens 2 = .ok (.binary .add (.num 2) (.name "b"), 5) := by decide
  have hsame : ∀ i < 5, 2 ≤ i → others[i]? = tokens[i]? := by decide
  have hstop : ∀ token ∈ others[5]?, token.kind ∉ Rule.term.operators := by decide
  obtain ⟨-, hlooks⟩ := parseAt_shifts_and_looks_ahead .term
  use hterm, hsame, hstop
  apply hlooks tokens 2 _ 5 hterm others _ hstop
  intro i hindex hnext
  apply hsame i hnext hindex

end Expr

end IntScript
