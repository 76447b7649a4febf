import IntScript.Proofs.Token.Concatenation

/-!
# The alphabet

Scripts are written with letters and digits, seven punctuation characters and three separators.  No
place in a line is such that the scan cannot go on with one of these characters, and it never goes
past another one.  So a line has tokens exactly if all of its characters are in the alphabet, and
otherwise its fault is the first character that is not, whatever stands in front of it and behind it
(`tokenize_eq_error_iff_first_foreign`).
-/

namespace IntScript

/-- The characters that scripts are written with: letters and digits of ASCII, punctuation, and
separators. -/
def InAlphabet (c : Char) : Prop :=
  ('A' ≤ c ∧ c ≤ 'Z') ∨ ('a' ≤ c ∧ c ≤ 'z') ∨ ('0' ≤ c ∧ c ≤ '9')
    ∨ c ∈ ['(', ')', '+', '-', '*', '/', '='] ∨ c ∈ [' ', '\t', '\n']

theorem isAlphanum_iff {c : Char} :
  c.isAlphanum ↔ ('A' ≤ c ∧ c ≤ 'Z') ∨ ('a' ≤ c ∧ c ≤ 'z') ∨ ('0' ≤ c ∧ c ≤ '9')
  := by
  have hle (a b : Char) : a ≤ b ↔ a.toNat ≤ b.toNat := Iff.rfl
  rw [Char.isAlphanum, Bool.or_eq_true, isAlpha_iff_toNat, Char.isDigit_iff_toNat, or_assoc]
  simp only [hle]
  rfl

theorem isSome_ofPunctuation?_iff {c : Char} :
  (Kind.ofPunctuation? c).isSome ↔ c ∈ ['(', ')', '+', '-', '*', '/', '=']
  := by
  unfold Kind.ofPunctuation?
  split
  all_goals simp_all

theorem isSeparator_iff {c : Char} :
  isSeparator c ↔ c ∈ [' ', '\t', '\n']
  := by
  simp [isSeparator, or_assoc]

/-- By `isForeign`, exactly the characters outside of the alphabet are foreign. -/
theorem isForeign_eq_false_iff {c : Char} :
  isForeign c = false ↔ InAlphabet c
  := by
  have hclasses : isForeign c = false
      ↔ c.isAlphanum ∨ (Kind.ofPunctuation? c).isSome ∨ isSeparator c := by
    simp only [isForeign, Bool.and_eq_false_iff, Bool.not_eq_false', Option.isNone_eq_false_iff]
    apply or_comm.trans (or_congr_right or_comm)
  rw [hclasses, isAlphanum_iff, isSome_ofPunctuation?_iff, isSeparator_iff, or_assoc, or_assoc]
  rfl

/-! ### Scanning up to a foreign character -/

namespace Scan

/-- If none of `chars` is foreign, then the scan has no fault. -/
theorem fault_of_not_foreign {chars : List Char} (offset : Nat)
    (h : ∀ c ∈ chars, isForeign c = false) :
  (ofChars offset 0 chars).fault = none
  := by
  induction chars using scan_induction generalizing offset with
  | nil => rfl
  | separator c rest hc ih =>
    rw [ofChars_separator _ _ hc]
    apply ih _ (List.forall_mem_cons.mp h).2
  | foreign c rest hc =>
    rw [h c List.mem_cons_self] at hc
    cases hc
  | token token rest hleads ih =>
    rw [ofChars_token _ hleads]
    apply ih _ (List.forall_mem_append.mp h).2

/-- Behind `before`, which has no foreign characters, the scan ends at the foreign character `c`,
with the lexemes of `before` alone. -/
theorem ofChars_of_first_foreign {before : List Char} {c : Char} (after : List Char)
    (hbefore : ∀ d ∈ before, isForeign d = false) (hc : isForeign c) :
  ofChars 0 0 (before ++ c :: after)
    = ⟨(ofChars 0 0 before).lexemes, some ⟨c, before.length⟩⟩
  := by
  have hborder : Separate before (c :: after) := by
    apply separate_of_head
    simp only [isForeign, Bool.and_eq_true, Bool.not_eq_true'] at hc
    apply hc.2
  rw [ofChars_append 0 hborder, ofChars_foreign _ _ hc, append, fault_of_not_foreign 0 hbefore,
    List.append_nil, Nat.zero_add]

end Scan

/-- None of `chars` is foreign, or there is a first one `c`. -/
theorem foreign_cases (chars : List Char) :
  (∀ c ∈ chars, isForeign c = false)
    ∨ ∃ before c after, chars = before ++ c :: after ∧ (∀ d ∈ before, isForeign d = false)
      ∧ isForeign c
  := by
  cases hfind : chars.find? isForeign with
  | none =>
    left
    simpa using List.find?_eq_none.mp hfind
  | some c =>
    obtain ⟨hc, before, after, hchars, hbefore⟩ := List.find?_eq_some_iff_append.mp hfind
    right
    use before, c, after, hchars
    simpa [hc] using hbefore

variable {line : String}

theorem tokenize_of_not_foreign (h : ∀ c ∈ line.toList, isForeign c = false) :
  tokenize line = .ok (scan line).tokens
  := by
  have hfault : (scan line).fault = none := Scan.fault_of_not_foreign 0 h
  rw [tokenize, Scan.result, hfault]

theorem tokenize_of_first_foreign {before after : List Char} {c : Char}
    (hline : line.toList = before ++ c :: after) (hbefore : ∀ d ∈ before, isForeign d = false)
    (hc : isForeign c) :
  tokenize line = .error ⟨c, before.length⟩
  := by
  rw [tokenize, scan, hline, Scan.ofChars_of_first_foreign after hbefore hc]
  rfl

/-- If `line` has tokens, then none of its characters is foreign. -/
theorem not_foreign_of_tokenize {tokens : List Token} (h : tokenize line = .ok tokens) :
  ∀ c ∈ line.toList, isForeign c = false
  := by
  rcases foreign_cases line.toList with hnone | ⟨before, c, after, hline, hbefore, hc⟩
  · apply hnone
  · rw [tokenize_of_first_foreign hline hbefore hc] at h
    cases h

/-- The `fault` of `line` is its first foreign character, and the number of characters `before` it.
-/
theorem exists_split_of_tokenize {fault : UnexpectedCharacter} (h : tokenize line = .error fault) :
  ∃ before after, line.toList = before ++ fault.character :: after
    ∧ before.length = fault.position ∧ (∀ d ∈ before, isForeign d = false)
    ∧ isForeign fault.character
  := by
  rcases foreign_cases line.toList with hnone | ⟨before, c, after, hline, hbefore, hc⟩
  · rw [tokenize_of_not_foreign hnone] at h
    cases h
  · rw [tokenize_of_first_foreign hline hbefore hc] at h
    cases h
    use before, after

/-- By `tokenize`, a `line` has a fault if and only if it contains a character that is not in the
alphabet.  The fault is then the first such character, with the number of characters `before` it. -/
theorem tokenize_eq_error_iff_first_foreign (line : String) :
  ((∃ fault, tokenize line = .error fault) ↔ ∃ c ∈ line.toList, ¬ InAlphabet c)
  ∧ ∀ fault, tokenize line = .error fault
    ↔ ∃ before after, line.toList = before ++ fault.character :: after
      ∧ before.length = fault.position ∧ (∀ d ∈ before, InAlphabet d)
      ∧ ¬ InAlphabet fault.character
  := by
  simp only [← isForeign_eq_false_iff, Bool.not_eq_false]
  constructor
  · constructor
    · rintro ⟨fault, hfault⟩
      obtain ⟨before, after, hline, -, -, hforeign⟩ := exists_split_of_tokenize hfault
      use fault.character, by simp [hline]
    · rintro ⟨c, hmem, hforeign⟩
      cases htokens : tokenize line with
      | error fault => use fault
      | ok tokens =>
        rw [not_foreign_of_tokenize htokens c hmem] at hforeign
        cases hforeign
  · intro fault
    constructor
    · apply exists_split_of_tokenize
    · rintro ⟨before, after, hline, hposition, hbefore, hforeign⟩
      rw [tokenize_of_first_foreign hline hbefore hforeign, hposition]

/-- In `printer=x_1` an underscore stands behind a keyword that is split off and behind a name, and
what follows it is not looked at. -/
theorem tokenize_eq_error_iff_first_foreign_underscore :
  ¬ InAlphabet '_' ∧ tokenize "printer=x_1\u00e9" = .error ⟨'_', 9⟩
  := by
  have hforeign : ¬ InAlphabet '_' := by
    rw [← isForeign_eq_false_iff]
    decide
  have hbefore : ∀ d ∈ "printer=x".toList, InAlphabet d := by
    have hall : ("printer=x".toList.all fun d => !isForeign d) = true := by decide
    intro d hd
    rw [← isForeign_eq_false_iff, ← Bool.not_eq_true']
    apply List.all_eq_true.mp hall d hd
  use hforeign
  apply ((tokenize_eq_error_iff_first_foreign _).2 _).mpr
  use "printer=x".toList, "1\u00e9".toList
  refine ⟨?_, rfl, hbefore, hforeign⟩
  decide

end IntScript
