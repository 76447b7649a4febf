import IntScript.Proofs.Expr.Descent

/-!
# The tokens of a tree

Parsing drops no token, takes none twice, and leaves the order as it is.  In the tokens that a rule
derives, the parentheses are balanced, and the other tokens are the leaves and the operators of the
tree, one by one and from left to right (`Derives.inventory`).  This holds of the tokens that are
taken when a rule is parsed from an index on, and parsing always comes to an end
(`Expr.parsing_ends_and_keeps_each_token`).
-/

namespace IntScript

/-! ### Parentheses -/

namespace Token

/-- The `token` is a parenthesis that opens. -/
def opens (token : Token) : Bool :=
  token.kind = .lparen

/-- The `token` is a parenthesis that closes. -/
def closes (token : Token) : Bool :=
  token.kind = .rparen

/-- The `token` is a number or a name. -/
def isOperand (token : Token) : Bool :=
  token.kind = .number || token.kind = .identifier

/-- The `token` is of the kind of an operator. -/
def isOperator (token : Token) : Bool :=
  token.kind ∈ Rule.expression.operators

end Token

/-- Within any first `n` of the `tokens`, no more parentheses are closed than opened, and overall as
many are closed as opened. -/
structure Balanced (tokens : List Token) : Prop where
  within : ∀ n, (tokens.take n).countP Token.closes ≤ (tokens.take n).countP Token.opens
  overall : tokens.countP Token.opens = tokens.countP Token.closes

namespace Balanced

/-- A `token` that is no parenthesis is balanced. -/
theorem single {token : Token} (hopens : token.opens = false) (hcloses : token.closes = false) :
  Balanced [token]
  := by
  constructor
  · intro n
    cases n <;> simp [hcloses]
  · simp [hopens, hcloses]

/-- If `ts` and `us` are balanced, then so is `ts ++ us`. -/
theorem append {ts us : List Token} (ht : Balanced ts) (hu : Balanced us) :
  Balanced (ts ++ us)
  := by
  constructor
  · intro n
    rw [List.take_append, List.countP_append, List.countP_append]
    apply Nat.add_le_add (ht.within n) (hu.within (n - ts.length))
  · rw [List.countP_append, List.countP_append, ht.overall, hu.overall]

/-- If `tokens` are balanced, then they are so between parentheses. -/
theorem enclose {opening closing : Token} {tokens : List Token} (h : Balanced tokens)
    (hopens : opening.kind = .lparen) (hcloses : closing.kind = .rparen) :
  Balanced (opening :: tokens ++ [closing])
  := by
  have hopening : opening.opens = true ∧ opening.closes = false := by
    simp [Token.opens, Token.closes, hopens]
  have hclosing : closing.opens = false ∧ closing.closes = true := by
    simp [Token.opens, Token.closes, hcloses]
  constructor
  · intro n
    cases n with
    | zero => simp
    | succ n =>
      have hwithin := h.within n
      have hlast : ([closing].take (n - tokens.length)).countP Token.closes ≤ 1 := by
        apply Nat.le_trans List.countP_le_length
        simp
      simp only [List.cons_append, List.take_succ_cons, List.take_append, List.countP_cons,
        List.countP_append, hopening]
      simp only [if_true, Bool.false_eq_true, if_false]
      omega
  · simp [List.countP_append, h.overall, hopening, hclosing]

end Balanced

/-! ### Leaves and operators -/

/-- A leaf or an operator of an expression. -/
inductive Item where
  | num (value : Int)
  | name (identifier : String)
  | operator (operator : Operator)
deriving DecidableEq

/-- The leaf or the operator that `token` stands for. -/
def Token.item? (token : Token) : Option Item :=
  match token.kind with
  | .number => (Decimal.read? token.text).map fun value => .num value
  | .identifier => some (.name token.text)
  | .plus | .minus | .multiply | .divide => (Operator.ofSymbol? token.text).map .operator
  | _ => none

namespace Expr

/-- The leaves and the operators of an expression, from left to right. -/
def items : Expr → List Item
  | num value => [.num value]
  | name identifier => [.name identifier]
  | binary op left right => left.items ++ .operator op :: right.items

/-- The number of leaves. -/
def leafCount : Expr → Nat
  | num _ | name _ => 1
  | binary _ left right => left.leafCount + right.leafCount

/-- The number of operations. -/
def operationCount : Expr → Nat
  | num _ | name _ => 0
  | binary _ left right => left.operationCount + 1 + right.operationCount

end Expr

/-- The `tokens` are those of `expr`: the parentheses are balanced, and the other tokens are its
leaves and operators, as many of each, and in the same order. -/
structure Inventory (tokens : List Token) (expr : Expr) : Prop where
  balanced : Balanced tokens
  leaves : expr.leafCount = tokens.countP Token.isOperand
  operations : expr.operationCount = tokens.countP Token.isOperator
  order : (tokens.filter fun token => !token.opens && !token.closes).map Token.item?
    = expr.items.map some

namespace Inventory

/-- A leaf has one `token`, which stands for it. -/
theorem leaf {token : Token} {expr : Expr} {item : Item} (hkind : token.isOperand)
    (hitem : token.item? = some item) (hitems : expr.items = [item])
    (hleaf : expr.leafCount = 1 ∧ expr.operationCount = 0) :
  Inventory [token] expr
  := by
  have hother : token.opens = false ∧ token.closes = false ∧ token.isOperator = false := by
    rw [Token.isOperand, Bool.or_eq_true, decide_eq_true_eq, decide_eq_true_eq] at hkind
    rcases hkind with hkind | hkind <;>
      simp [Token.opens, Token.closes, Token.isOperator, Rule.operators, hkind]
  obtain ⟨hopens, hcloses, hoperator⟩ := hother
  constructor
  · apply Balanced.single hopens hcloses
  · simp [hleaf, hkind]
  · simp [hleaf, hoperator]
  · simp [hopens, hcloses, hitem, hitems]

/-- The tokens of an operation are those of its operands, with a `sign` for its operator between
them. -/
theorem binary {ls rs : List Token} {sign : Token} {left right : Expr} {op : Operator}
    (hleft : Inventory ls left) (hright : Inventory rs right) (hkind : sign.isOperator)
    (hsymbol : Operator.ofSymbol? sign.text = some op) :
  Inventory (ls ++ sign :: rs) (.binary op left right)
  := by
  have hother : sign.opens = false ∧ sign.closes = false ∧ sign.isOperand = false
      ∧ sign.item? = some (.operator op) := by
    have hkinds : sign.kind ∈ Rule.expression.operators := by
      simpa [Token.isOperator] using hkind
    simp only [Rule.operators, List.mem_cons, List.not_mem_nil, or_false] at hkinds
    rcases hkinds with hkind | hkind | hkind | hkind <;>
      simp [Token.opens, Token.closes, Token.isOperand, Token.item?, hkind, hsymbol]
  obtain ⟨hopens, hcloses, hoperand, hitem⟩ := hother
  constructor
  · apply hleft.balanced.append
    apply (Balanced.single hopens hcloses).append hright.balanced
  · simp [Expr.leafCount, hleft.leaves, hright.leaves, hoperand]
  · simp [Expr.operationCount, hleft.operations, hright.operations, hkind]
    omega
  · simp [Expr.items, hleft.order, hright.order, hopens, hcloses, hitem]

/-- If `tokens` are those of `expr`, then they are so between parentheses. -/
theorem enclose {opening closing : Token} {tokens : List Token} {expr : Expr}
    (h : Inventory tokens expr) (hopens : opening.kind = .lparen)
    (hcloses : closing.kind = .rparen) :
  Inventory (opening :: tokens ++ [closing]) expr
  := by
  have hopening : opening.opens := by simp [Token.opens, hopens]
  have hclosing : closing.closes := by simp [Token.closes, hcloses]
  constructor
  · apply h.balanced.enclose hopens hcloses
  · simp [h.leaves, Token.isOperand, hopens, hcloses]
  · simp [h.operations, Token.isOperator, Rule.operators, hopens, hcloses]
  · simp [h.order, hopening, hclosing]

end Inventory

/-- If a rule derives `expr` from `tokens`, then the tokens are those of `expr`. -/
theorem Derives.inventory {rule : Rule} {tokens : List Token} {expr : Expr}
    (h : Derives rule tokens expr) :
  Inventory tokens expr
  := by
  induction h with
  | number kind read =>
    apply Inventory.leaf _ _ rfl ⟨rfl, rfl⟩
    · simp [Token.isOperand, kind]
    · simp [Token.item?, kind, read]
  | name kind =>
    apply Inventory.leaf _ _ rfl ⟨rfl, rfl⟩
    · simp [Token.isOperand, kind]
    · simp [Token.item?, kind]
  | group opens _ closes ih => apply ih.enclose opens closes
  | factor _ ih => apply ih
  | product _ kind symbol _ ihleft ihright =>
    apply ihleft.binary ihright _ symbol
    rcases kind with kind | kind <;> simp [Token.isOperator, Rule.operators, kind]
  | term _ ih => apply ih
  | sum _ kind symbol _ ihleft ihright =>
    apply ihleft.binary ihright _ symbol
    rcases kind with kind | kind <;> simp [Token.isOperator, Rule.operators, kind]

namespace Expr

/-- Whatever the `tokens` are, and wherever parsing starts, `descend` comes to an end, with no more
than three nested calls for each token left and with the answer of `parseAt`.  If the answer is a
tree, then at least one token was taken, and none beyond the last; the parentheses among the tokens
taken are balanced; there are as many numbers and names as `Expr.leafCount` says, and as many
operators as `Expr.operationCount`; and leaving the parentheses out, the tokens stand for
`Expr.items`. -/
theorem parsing_ends_and_keeps_each_token (rule : Rule) (tokens : List Token) (index : Nat) :
  (∀ calls, 3 * (tokens.length - index) + rule.height ≤ calls →
    (descend tokens calls rule index).run = some (parseAt rule tokens index))
  ∧ ∀ expr next, parseAt rule tokens index = .ok (expr, next) →
    (index < next ∧ next ≤ tokens.length)
    ∧ Balanced (tokens.extract index next)
    ∧ expr.leafCount = (tokens.extract index next).countP Token.isOperand
    ∧ expr.operationCount = (tokens.extract index next).countP Token.isOperator
    ∧ ((tokens.extract index next).filter fun token => !token.opens && !token.closes).map Token.item?
      = expr.items.map some
  := by
  constructor
  · intro calls hcalls
    apply descend_eq_parseAt hcalls
  · intro expr next h
    obtain ⟨hle, hderives, -⟩ := parseAt_eq_ok_iff.mp h
    have hinventory := hderives.inventory
    use ⟨hderives.lt_of_extract, hle⟩, hinventory.balanced, hinventory.leaves,
      hinventory.operations, hinventory.order

/-- The term is in parentheses, with other tokens before and behind it.  Its sign has the kind of a
product and the text of a sum, and the name `b` is in parentheses of its own. -/
theorem parsing_ends_and_keeps_each_token_of_term :
  let tokens : List Token := [⟨.identifier, "a"⟩, ⟨.equals, "="⟩, ⟨.lparen, "("⟩, ⟨.number, "2"⟩,
    ⟨.multiply, "+"⟩, ⟨.lparen, "["⟩, ⟨.identifier, "b"⟩, ⟨.rparen, "]"⟩, ⟨.rparen, ")"⟩,
    ⟨.minus, "-"⟩, ⟨.identifier, "c"⟩]
  let expr : Expr := .binary .add (.num 2) (.name "b")
  (3 * (tokens.length - 2) + Rule.term.height ≤ 29
    ∧ (descend tokens 29 .term 2).run = some (.ok (expr, 9)))
  ∧ parseAt .term tokens 2 = .ok (expr, 9)
  ∧ Balanced (tokens.extract 2 9)
  ∧ (tokens.extract 2 9).countP Token.isOperand = 2
  ∧ ((tokens.extract 2 9).filter fun token => !token.opens && !token.closes).map Token.item?
    = [some (.num 2), some (.operator .add), some (.name "b")]
  := by
  intro tokens expr
  have hcalls : 3 * (tokens.length - 2) + Rule.term.height ≤ 29 := by decide
  have hterm : parseAt .term tokens 2 = .ok (expr, 9) := by decide
  obtain ⟨hends, hkeeps⟩ := parsing_ends_and_keeps_each_token .term tokens 2
  obtain ⟨-, hbalanced, hleaves, -, horder⟩ := hkeeps expr 9 hterm
  have hdescends := hends 29 hcalls
  rw [hterm] at hdescends
  exact ⟨⟨hcalls, hdescends⟩, hterm, hbalanced, hleaves.symm, horder⟩

end Expr

end IntScript
