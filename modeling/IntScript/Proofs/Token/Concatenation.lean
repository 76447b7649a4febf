import IntScript.Proofs.Token.Scan

/-!
# Scanning a concatenation

A text is scanned piece by piece, provided that no run of letters and digits goes on across the
border of two pieces.  The offsets found in the second piece are counted from the beginning of
the first, and a foreign character in the first piece ends the scan of both.
-/

namespace IntScript

/-- The `fault`, standing `n` characters further back. -/
def UnexpectedCharacter.shift (n : Nat) (fault : UnexpectedCharacter) : UnexpectedCharacter :=
  { fault with position := n + fault.position }

/-- The `lexeme`, standing `n` characters further back. -/
def Lexeme.shift (n : Nat) (lexeme : Lexeme) : Lexeme :=
  { lexeme with start := n + lexeme.start }

namespace Scan

/-- The `scan`, with everything `n` characters further back. -/
def shift (n : Nat) (scan : Scan) : Scan :=
  ⟨scan.lexemes.map (Lexeme.shift n), scan.fault.map (UnexpectedCharacter.shift n)⟩

/-- The scan `a` carried on by `b`, unless `a` has a fault. -/
def append (a b : Scan) : Scan :=
  match a.fault with
  | none => ⟨a.lexemes ++ b.lexemes, b.fault⟩
  | some _ => a

theorem cons_append (lexeme : Lexeme) (a b : Scan) :
  (cons lexeme a).append b = cons lexeme (a.append b)
  := by
  obtain ⟨lexemes, fault⟩ := a
  cases fault <;> rfl

@[simp]
theorem tokens_shift (n : Nat) (scan : Scan) :
  (scan.shift n).tokens = scan.tokens
  := by
  simp [tokens, shift, Function.comp_def, Lexeme.shift]

theorem result_shift (n : Nat) (scan : Scan) :
  (scan.shift n).result = scan.result.mapError (UnexpectedCharacter.shift n)
  := by
  obtain ⟨lexemes, fault⟩ := scan
  cases fault with
  | none =>
    apply congrArg Except.ok
    apply tokens_shift
  | some fault => rfl

theorem result_append (a b : Scan) :
  (a.append b).result = a.result >>= fun ts => b.result.map (ts ++ ·)
  := by
  obtain ⟨lexemes, fault⟩ := a
  cases fault with
  | none =>
    obtain ⟨lexemes', fault'⟩ := b
    cases fault' with
    | none =>
      apply congrArg Except.ok
      apply List.map_append
    | some fault' => rfl
  | some fault => rfl

/-- A scan that starts `n` characters further back finds everything that much further back. -/
theorem ofChars_add (n offset : Nat) (chars : List Char) :
  ofChars (n + offset) 0 chars = (ofChars offset 0 chars).shift n
  := by
  induction chars using scan_induction generalizing offset with
  | nil => rfl
  | separator c rest h ih =>
    rw [ofChars_separator _ _ h, ofChars_separator _ _ h, Nat.add_assoc, ih]
  | foreign c rest h =>
    rw [ofChars_foreign _ _ h, ofChars_foreign _ _ h]
    rfl
  | token token rest h ih =>
    rw [ofChars_token _ h, ofChars_token _ h, Nat.add_assoc, ih]
    rfl

end Scan

/-! ### Borders -/

/-- It is not the case that `a` ends and `b` begins with a letter or digit. -/
def Separate (a b : List Char) : Prop :=
  ∀ x ∈ a.getLast?, ∀ y ∈ b.head?, ¬ (x.isAlphanum ∧ y.isAlphanum)

theorem separate_of_head {a b : List Char} (h : b.head?.any Char.isAlphanum = false) :
  Separate a b
  := by
  rintro x hx y hy ⟨-, halphanum⟩
  rw [Option.mem_def.mp hy, Option.any_some, halphanum] at h
  cases h

theorem separate_of_getLast {a b : List Char} (h : a.getLast?.any Char.isAlphanum = false) :
  Separate a b
  := by
  rintro x hx y hy ⟨halphanum, -⟩
  rw [Option.mem_def.mp hx, Option.any_some, halphanum] at h
  cases h

/-- If `a ++ b` is separate from `c`, then so is `b`. -/
theorem Separate.of_append {a b c : List Char} (h : Separate (a ++ b) c) :
  Separate b c
  := by
  intro x hx
  apply h x
  rw [List.getLast?_append, Option.mem_def.mp hx]
  rfl

namespace Token

/-- If `token` stands in front of `rest`, then it does so when `b` follows behind a border. -/
theorem Leads.append {token : Token} {rest b : List Char} (h : token.Leads rest)
    (hseparate : Separate (token.text.toList ++ rest) b) :
  token.Leads (rest ++ b)
  := by
  refine ⟨h.wellFormed, ?_⟩
  intro c hc
  cases rest with
  | nil =>
    apply Bool.eq_false_iff.mpr
    intro htakes
    obtain ⟨hkind, halphanum⟩ := Kind.cases_of_takes htakes
    have hne := text_ne_nil_of_isWellFormed h.wellFormed
    have hlast := isAlphanum_of_mem_text hkind h.wellFormed (List.getLast_mem hne)
    rw [List.append_nil] at hseparate
    apply hseparate _ (List.getLast?_eq_some_getLast hne) c hc ⟨hlast, halphanum⟩
  | cons d rest => apply h.ends c hc

end Token

/-- If `a` and `b` are separate, then to scan `a ++ b` is to scan `a` and then `b`. -/
theorem Scan.ofChars_append {a b : List Char} (offset : Nat) (h : Separate a b) :
  ofChars offset 0 (a ++ b) = (ofChars offset 0 a).append (ofChars (offset + a.length) 0 b)
  := by
  induction a using scan_induction generalizing offset with
  | nil => rfl
  | separator c rest hc ih =>
    rw [List.cons_append, ofChars_separator _ _ hc, ofChars_separator _ _ hc,
      ih _ (Separate.of_append (a := [c]) h), List.length_cons]
    congr 2
    omega
  | foreign c rest hc =>
    rw [List.cons_append, ofChars_foreign _ _ hc, ofChars_foreign _ _ hc]
    rfl
  | token token rest hleads ih =>
    rw [List.append_assoc, ofChars_token _ (hleads.append h), ofChars_token _ hleads,
      ih _ h.of_append, cons_append, List.length_append, String.length_toList]
    congr 3
    omega

/-- If `a` and `b` are separate, then the tokens of `a ++ b` are those of `a` and `b`. -/
theorem tokenize_append {a b : String} (h : Separate a.toList b.toList) :
  tokenize (a ++ b) = tokenize a >>= fun ts =>
    ((tokenize b).mapError (UnexpectedCharacter.shift a.length)).map (ts ++ ·)
  := by
  have hscan : scan (a ++ b) = (scan a).append ((scan b).shift a.length) := by
    rw [scan, String.toList_append, Scan.ofChars_append 0 h, Nat.zero_add, String.length_toList,
      ← Nat.add_zero a.length, Scan.ofChars_add]
    rfl
  rw [tokenize, hscan, Scan.result_append, Scan.result_shift]
  rfl

/-- If `a` and `b` are separate and both have tokens, then `a ++ b` has both. -/
theorem tokenize_append_of_ok {a b : String} {ts us : List Token}
    (h : Separate a.toList b.toList) (ha : tokenize a = .ok ts) (hb : tokenize b = .ok us) :
  tokenize (a ++ b) = .ok (ts ++ us)
  := by
  rw [tokenize_append h, ha, hb]
  rfl

/-- If neither `a` ends nor `b` begins with a letter or digit, then `text` between them has its
tokens between theirs. -/
theorem tokenize_between {a b text : String} {as bs ts : List Token} (ha : tokenize a = .ok as)
    (htext : tokenize text = .ok ts) (hb : tokenize b = .ok bs)
    (hlast : a.toList.getLast?.any Char.isAlphanum = false)
    (hhead : b.toList.head?.any Char.isAlphanum = false) :
  tokenize (a ++ text ++ b) = .ok (as ++ ts ++ bs)
  := by
  apply tokenize_append_of_ok (separate_of_head hhead) _ hb
  apply tokenize_append_of_ok (separate_of_getLast hlast) ha htext

/-- If `text` is not empty and neither begins nor ends with a letter or digit, then it has its
tokens between those of `a` and `b`. -/
theorem tokenize_around {a b text : String} {as bs ts : List Token} (ha : tokenize a = .ok as)
    (htext : tokenize text = .ok ts) (hb : tokenize b = .ok bs)
    (hhead : text.toList.head?.any Char.isAlphanum = false)
    (hlast : text.toList.getLast?.map Char.isAlphanum = some false) :
  tokenize (a ++ text ++ b) = .ok (as ++ ts ++ bs)
  := by
  apply tokenize_append_of_ok _ _ hb
  · apply separate_of_getLast
    obtain ⟨x, hx, halphanum⟩ := Option.map_eq_some_iff.mp hlast
    rw [String.toList_append, List.getLast?_append, hx]
    apply halphanum
  · apply tokenize_append_of_ok (separate_of_head hhead) ha htext

end IntScript
