import IntScript.Proofs.Except
import IntScript.Proofs.Token.Concatenation

/-!
# Well-formed tokens and the scanner

The scanner finds well-formed tokens only, and it finds each of them where it is written.
-/

namespace IntScript

/-- If `token` is found by a scan, then it is well formed. -/
theorem Scan.isWellFormed_of_mem_tokens {offset : Nat} {chars : List Char} {token : Token}
    (h : token ∈ (ofChars offset 0 chars).tokens) :
  token.isWellFormed
  := by
  induction chars using scan_induction generalizing offset with
  | nil => cases h
  | separator c rest hc ih =>
    rw [ofChars_separator _ _ hc] at h
    apply ih h
  | foreign c rest hc =>
    rw [ofChars_foreign _ _ hc] at h
    cases h
  | token found rest hleads ih =>
    rw [ofChars_token _ hleads] at h
    rcases List.mem_cons.mp h with rfl | h
    · apply hleads.wellFormed
    · apply ih h

/-- If `line` has `tokens`, then all of them are well formed. -/
theorem isWellFormed_of_tokenize {line : String} {tokens : List Token}
    (h : tokenize line = .ok tokens) :
  ∀ token ∈ tokens, token.isWellFormed
  := by
  intro token hmem
  unfold tokenize Scan.result at h
  split at h
  next =>
    cases h
    apply Scan.isWellFormed_of_mem_tokens hmem
  next => cases h

/-- A well-formed `token` is scanned from its text. -/
theorem Token.tokenize_text (token : Token) (h : token.isWellFormed) :
  tokenize token.text = .ok [token]
  := by
  have hleads : token.Leads [] := by
    use h
    simp
  have hscan := Scan.ofChars_token 0 hleads
  rw [List.append_nil] at hscan
  rw [tokenize, scan, hscan]
  rfl

/-- The `token` is among those of some line. -/
def Token.Occurs (token : Token) : Prop :=
  ∃ line tokens, tokenize line = .ok tokens ∧ token ∈ tokens

/-- The `token` is among those of some line if and only if it is well formed. -/
theorem Token.occurs_iff_isWellFormed {token : Token} :
  token.Occurs ↔ token.isWellFormed
  := by
  constructor
  · rintro ⟨line, tokens, htokens, hmem⟩
    apply isWellFormed_of_tokenize htokens token hmem
  · intro h
    use token.text, [token], tokenize_text token h
    apply List.mem_singleton_self

instance (token : Token) : Decidable token.Occurs :=
  decidable_of_iff' _ Token.occurs_iff_isWellFormed

end IntScript
