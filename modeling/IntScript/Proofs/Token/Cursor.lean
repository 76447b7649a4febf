import IntScript.Proofs.Token.Restart

/-!
# The scan of a cursor

A second way to scan a line: a cursor moves over it from left to right, and at each place the
keyword is tried before all other tokens, whatever follows it.  No token is ever split, and the
longest possible token plays no part.  `tokenize_eq_cursorScan` says that both ways come to the
same tokens, or to the same fault, and so does the loop `Token.search`, which splits tokens.
-/

namespace IntScript

namespace Token

/-- The token at the front of a text, found by trying one after the other: the keyword, a
punctuation character, a longest run of digits, and a letter with the longest run of letters and
digits behind it. -/
def keywordFirst? : List Char → Option Token
  | [] => none
  | c :: rest =>
    if keyword.text.toList.isPrefixOf (c :: rest) then
      some keyword
    else
      match Kind.ofPunctuation? c with
      | some kind => some ⟨kind, String.ofList [c]⟩
      | none =>
        if c.isDigit then
          some ⟨.number, String.ofList (c :: rest.takeWhile Char.isDigit)⟩
        else if c.isAlpha then
          some ⟨.identifier, String.ofList (c :: rest.takeWhile Char.isAlphanum)⟩
        else
          none

/-- By `keywordFirst?`, the same token is found as by `Token.first?`, which takes the longest one
and splits off the keyword. -/
theorem keywordFirst?_eq_first? (chars : List Char) :
  keywordFirst? chars = first? chars
  := by
  cases chars with
  | nil => rfl
  | cons c rest =>
    rw [keywordFirst?]
    split
    next hbegins =>
      obtain ⟨rest', hchars⟩ := List.isPrefixOf_iff_prefix.mp hbegins
      rw [← hchars, first?_keyword]
    next hbegins =>
      split
      next kind hpunctuation => rw [first?_punctuation rest hpunctuation]
      next hpunctuation =>
        split
        next hdigit => rw [first?_digit rest hdigit]
        next hdigit =>
          split
          next halpha =>
            rw [first?_alpha rest halpha, if_neg]
            intro hword
            apply hbegins (isPrefixOf_takeWhile hword)
          next halpha =>
            symm
            rw [first?_eq_none_iff, Char.isAlphanum, Bool.eq_false_iff.mpr halpha,
              Bool.eq_false_iff.mpr hdigit]
            use hpunctuation
            rfl

/-- If `keywordFirst?` finds `token`, then this stands in front of what is left of `chars`, and is
not empty. -/
theorem drop_of_keywordFirst? {chars : List Char} {token : Token}
    (h : keywordFirst? chars = some token) :
  chars = token.text.toList ++ chars.drop token.text.length
    ∧ token.Leads (chars.drop token.text.length) ∧ 0 < token.text.length
  := by
  rw [keywordFirst?_eq_first?] at h
  obtain ⟨rest, rfl, hleads⟩ := leads_of_first? h
  have hpos := List.length_pos_iff.mpr (text_ne_nil_of_isWellFormed hleads.wellFormed)
  rw [← String.length_toList, List.drop_left]
  use rfl, hleads

end Token

/-- Scans `line` from the place `cursor` on. -/
def cursorScan (line : List Char) (cursor : Nat) : Except UnexpectedCharacter (List Token) :=
  match _hrest : line.drop cursor with
  | [] => .ok []
  | c :: rest =>
    if isSeparator c then
      cursorScan line (cursor + 1)
    else
      match _htoken : Token.keywordFirst? (c :: rest) with
      | none => .error ⟨c, cursor⟩
      | some token => (cursorScan line (cursor + token.text.length)).map (token :: ·)
  termination_by line.length - cursor
  decreasing_by
    all_goals
      have hlength := congrArg List.length _hrest
      rw [List.length_drop, List.length_cons] at hlength
    · omega
    · obtain ⟨-, -, hpos⟩ := Token.drop_of_keywordFirst? _htoken
      omega

/-- From each `cursor` on, the scan finds what `cursorScan` finds. -/
theorem Scan.result_ofChars_drop (line : List Char) (cursor : Nat) :
  (ofChars cursor 0 (line.drop cursor)).result = cursorScan line cursor
  := by
  fun_induction cursorScan line cursor with
  | case1 cursor hrest =>
    rw [hrest]
    rfl
  | case2 cursor c rest hrest hseparator ih =>
    have hdrop : line.drop (cursor + 1) = rest := by
      rw [← List.drop_drop, hrest]
      rfl
    rw [hrest, ofChars_separator _ _ hseparator, ← ih, hdrop]
  | case3 cursor c rest hrest hseparator hnone =>
    rw [Token.keywordFirst?_eq_first?] at hnone
    rw [hrest, ofChars_foreign _ _ (isForeign_iff.mpr ⟨Bool.eq_false_iff.mpr hseparator, hnone⟩)]
    rfl
  | case4 cursor c rest hrest hseparator token htoken ih =>
    obtain ⟨hchars, hleads, -⟩ := Token.drop_of_keywordFirst? htoken
    rw [← List.drop_drop, hrest] at ih
    rw [hrest, hchars, ofChars_token _ hleads, result_cons, ih]

/-- There are at most as many lexemes as `chars`. -/
theorem Scan.length_lexemes_le (offset : Nat) (chars : List Char) :
  (ofChars offset 0 chars).lexemes.length ≤ chars.length
  := by
  induction chars using scan_induction generalizing offset with
  | nil => simp [ofChars]
  | separator c rest h ih =>
    rw [ofChars_separator _ _ h, List.length_cons]
    apply Nat.le_succ_of_le (ih _)
  | foreign c rest h =>
    rw [ofChars_foreign _ _ h]
    simp
  | token token rest h ih =>
    have hpos := List.length_pos_iff.mpr (Token.text_ne_nil_of_isWellFormed h.wellFormed)
    have hrest := ih (offset + token.text.length)
    rw [ofChars_token _ h, List.length_append, cons, List.length_cons]
    omega

/-- By `tokenize`, a `line` has the tokens, or the fault, that `cursorScan` finds from its
beginning, and no more of them than characters.  The loop `Token.search`, which splits off the
keyword and restarts behind it, comes to its end with the same answer, in at most one round more
than there are characters. -/
theorem tokenize_eq_cursorScan (line : String) :
  tokenize line = cursorScan line.toList 0
  ∧ (scan line).lexemes.length ≤ line.length
  ∧ (Token.search line.toList (line.length + 1) 0 []).run = some (tokenize line)
  := by
  refine ⟨?_, ?_, ?_⟩
  · apply Scan.result_ofChars_drop line.toList 0
  · rw [← String.length_toList]
    apply Scan.length_lexemes_le
  · apply Token.search_eq_tokenize line (Nat.lt_succ_self _)

end IntScript
