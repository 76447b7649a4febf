import IntScript.Proofs.Expr.Derivation
import IntScript.Proofs.Statement.Names

/-!
# Substituting an expression for a name

A name can be replaced in two ways: in the tokens, each token for the name by other tokens, and in
the tree, each leaf for the name by another tree.  Tokens that are derived as a factor may take the
place of a name wherever it stands, without any change to what is grouped around it
(`Derives.substitute`), and any expression becomes a factor when it is put into parentheses.

Evaluating a tree after the replacement is evaluating it as it was, with the name bound to the
value of what replaces it (`Expr.eval_substitute`).
-/

namespace IntScript

/-! ### Tokens -/

namespace Token

/-- The `token` stands for the name `target`. -/
def Names (token : Token) (target : String) : Prop :=
  token.kind = .identifier ∧ token.text = target

instance (token : Token) (target : String) : Decidable (token.Names target) :=
  instDecidableAnd

/-- Replaces each of the `tokens` that stands for `target` by `replacement`. -/
def substitute (target : String) (replacement tokens : List Token) : List Token :=
  tokens.flatMap fun token => if token.Names target then replacement else [token]

variable {target : String} {replacement : List Token}

theorem substitute_append (ls rs : List Token) :
  substitute target replacement (ls ++ rs)
    = substitute target replacement ls ++ substitute target replacement rs
  := List.flatMap_append

theorem substitute_cons_of_names {token : Token} (h : token.Names target) (rest : List Token) :
  substitute target replacement (token :: rest)
    = replacement ++ substitute target replacement rest
  := by
  rw [substitute, List.flatMap_cons, if_pos h]
  rfl

theorem substitute_cons_of_not_names {token : Token} (h : ¬ token.Names target)
    (rest : List Token) :
  substitute target replacement (token :: rest) = token :: substitute target replacement rest
  := by
  rw [substitute, List.flatMap_cons, if_neg h]
  rfl

/-- A `token` of another kind than `Kind.identifier` is not replaced. -/
theorem not_names_of_kind {token : Token} {kind : Kind} (target : String)
    (h : token.kind = kind) (hkind : kind ≠ .identifier) :
  ¬ token.Names target
  := by
  rintro ⟨hidentifier, -⟩
  apply hkind
  rw [← h, hidentifier]

end Token

/-- A `sign` that `tier` admits is not replaced. -/
theorem Tier.not_names_of_admits (tier : Tier) {sign : Token} (target : String)
    (h : tier.Admits sign.kind) :
  ¬ sign.Names target
  := by
  cases tier with
  | sum => rcases h with h | h <;> apply Token.not_names_of_kind target h (by simp)
  | product => rcases h with h | h <;> apply Token.not_names_of_kind target h (by simp)

/-! ### Trees -/

/-- Replaces each leaf of `expr` that is the name `target` by `replacement`. -/
def Expr.substitute (expr : Expr) (target : String) (replacement : Expr) : Expr :=
  match expr with
  | num value => num value
  | name identifier => if identifier = target then replacement else name identifier
  | binary op left right =>
    binary op (left.substitute target replacement) (right.substitute target replacement)

/-- If a rule derives `expr` from `tokens`, then it does so when the tokens of a factor take the
place of `target`. -/
theorem Derives.substitute {rule : Rule} {tokens replacement : List Token} {expr value : Expr}
    (h : Derives rule tokens expr) (target : String)
    (hreplacement : Derives .factor replacement value) :
  Derives rule (Token.substitute target replacement tokens) (expr.substitute target value)
  := by
  induction h with
  | @number token n kind read =>
    have hother := Token.not_names_of_kind target kind (by simp)
    rw [Token.substitute_cons_of_not_names hother]
    apply Derives.number kind read
  | @name token kind =>
    rw [Expr.substitute]
    split
    next htext =>
      rw [Token.substitute_cons_of_names ⟨kind, htext⟩]
      simpa [Token.substitute] using hreplacement
    next htext =>
      have hother : ¬ token.Names target := fun hnames => htext hnames.2
      rw [Token.substitute_cons_of_not_names hother]
      apply Derives.name kind
  | @group opening closing tokens expr opens _ closes ih =>
    have hopening := Token.not_names_of_kind target opens (by simp)
    have hclosing := Token.not_names_of_kind target closes (by simp)
    rw [List.cons_append, Token.substitute_cons_of_not_names hopening, Token.substitute_append,
      Token.substitute_cons_of_not_names hclosing]
    apply Derives.group opens ih closes
  | factor _ ih => apply Derives.factor ih
  | @product ls rs sign left right op _ kind symbol _ ihleft ihright =>
    have hsign : ¬ sign.Names target := Tier.not_names_of_admits .product target kind
    rw [Token.substitute_append, Token.substitute_cons_of_not_names hsign]
    apply Derives.product ihleft kind symbol ihright
  | term _ ih => apply Derives.term ih
  | @sum ls rs sign left right op _ kind symbol _ ihleft ihright =>
    have hsign : ¬ sign.Names target := Tier.not_names_of_admits .sum target kind
    rw [Token.substitute_append, Token.substitute_cons_of_not_names hsign]
    apply Derives.sum ihleft kind symbol ihright

namespace Expr

/-- To evaluate `expr` with `target` replaced is to evaluate it with `target` assigned the value of
`replacement`.  The replacement itself is evaluated in `env`, so it may contain `target`. -/
theorem eval_substitute {env : Environment} {replacement : Expr} {value : Int}
    (h : replacement.eval env = .ok value) (target : String) (expr : Expr) :
  (expr.substitute target replacement).eval env = expr.eval (env.assign target value)
  := by
  induction expr with
  | num n => rfl
  | name identifier =>
    rw [substitute]
    split
    next heq => rw [h, eval, Environment.get?_assign, if_pos heq]
    next hne => rw [eval, eval, Environment.get?_assign, if_neg hne]
  | binary op left right ihleft ihright =>
    rw [substitute, eval_binary, eval_binary, ihleft, ihright]

/-- If `inner`, in parentheses, takes the place of `target` in `tokens`, then what is parsed is
`expr` with `target` replaced.  If `replacement` has a value in `env`, then this evaluates as `expr`
does once `target` is assigned that value, to the same integer or with the same error. -/
theorem parse_and_eval_substitute {tokens inner : List Token} {expr replacement : Expr}
    {opening closing : Token} (h : parse tokens = .ok expr) (hinner : parse inner = .ok replacement)
    (opens : opening.kind = .lparen) (closes : closing.kind = .rparen) (target : String)
    (env : Environment) :
  parse (Token.substitute target (opening :: inner ++ [closing]) tokens)
    = .ok (expr.substitute target replacement)
  ∧ ∀ value, replacement.eval env = .ok value →
    (expr.substitute target replacement).eval env = expr.eval (env.assign target value)
  := by
  rw [parse_eq_ok_iff] at h hinner ⊢
  constructor
  · apply h.substitute target (Derives.group opens hinner closes)
  · intro value hvalue
    apply eval_substitute hvalue

/-- In `x * (y - x)` the name `x` is replaced by `x + 1`, which contains the name itself. -/
theorem parse_and_eval_substitute_successor :
  let x : Token := ⟨.identifier, "x"⟩
  let opening : Token := ⟨.lparen, "("⟩
  let closing : Token := ⟨.rparen, ")"⟩
  let tokens := [x, ⟨.multiply, "*"⟩, opening, ⟨.identifier, "y"⟩, ⟨.minus, "-"⟩, x, closing]
  let inner := [x, ⟨.plus, "+"⟩, ⟨.number, "1"⟩]
  let successor : Expr := .binary .add (.name "x") (.num 1)
  let env := Environment.ofList [("x", 1), ("y", 10)]
  parse (Token.substitute "x" (opening :: inner ++ [closing]) tokens)
    = .ok (.binary .mul successor (.binary .sub (.name "y") successor))
  ∧ (Expr.binary .mul successor (.binary .sub (.name "y") successor)).eval env = .ok 16
  := by
  intro x opening closing tokens inner successor env
  let expr : Expr := .binary .mul (.name "x") (.binary .sub (.name "y") (.name "x"))
  have htokens : parse tokens = .ok expr := by decide
  have hinner : parse inner = .ok successor := by decide
  have hopens : opening.kind = .lparen := rfl
  have hcloses : closing.kind = .rparen := rfl
  obtain ⟨hparse, heval⟩ := parse_and_eval_substitute htokens hinner hopens hcloses "x" env
  use hparse
  apply (heval 2 (by decide)).trans
  decide

end Expr

end IntScript
