import IntScript.Proofs.Token.Scan

/-!
# The loop that restarts a scan

`scan` passes over a line once.  The same tokens are found by a loop that takes a longest token in
each round.  If this is a name that begins with the keyword, then only `Token.keyword` is kept of
it, and the loop starts again right behind the keyword, in the middle of the name.

`Token.search` is this loop, with a limit on the number of rounds.  In each round it either ends or
goes on with fewer characters, so it always comes to an end: `Token.search_eq_tokenize` says that
one more round than there are characters in the line is enough, and that the loop then answers what
`tokenize` does.
-/

namespace IntScript

namespace Token

/-- Searches `line` for tokens from `place` on, in no more than the given number of rounds, when
`found` are the tokens in front.  The answer is `none` if the rounds do not suffice. -/
def search (line : List Char) : (rounds : Nat) → (place : Nat) → (found : List Token) →
    ExceptT UnexpectedCharacter Option (List Token)
  | 0, _, _ => .mk none
  | rounds + 1, place, found =>
    let start := place + ((line.drop place).takeWhile isSeparator).length
    match line.drop start with
    | [] => return found
    | c :: rest =>
      match longest? (c :: rest) with
      | none => throw ⟨c, start⟩
      | some (kind, word) =>
        if kind = .identifier ∧ keyword.text.toList.isPrefixOf word then
          search line rounds (start + keyword.text.length) (found ++ [keyword])
        else
          search line rounds (start + word.length) (found ++ [⟨kind, String.ofList word⟩])

end Token

/-- A scan passes over the separators at the front of `chars`. -/
theorem Scan.ofChars_dropWhile (offset : Nat) (chars : List Char) :
  ofChars offset 0 chars
    = ofChars (offset + (chars.takeWhile isSeparator).length) 0 (chars.dropWhile isSeparator)
  := by
  induction chars generalizing offset with
  | nil => rfl
  | cons c rest ih =>
    by_cases hseparator : isSeparator c
    · rw [ofChars_separator _ _ hseparator, List.takeWhile_cons_of_pos hseparator,
        List.dropWhile_cons_of_pos hseparator, ih, List.length_cons, Nat.add_assoc,
        Nat.add_comm 1]
    · rw [List.takeWhile_cons_of_neg hseparator, List.dropWhile_cons_of_neg hseparator]
      rfl

namespace Token

variable {line : List Char} {place start rounds : Nat} {found : List Token}

/-- Behind the separators from `place` on, `line` goes on with what is not a separator. -/
theorem drop_separators (line : List Char) (place : Nat) :
  line.drop (place + ((line.drop place).takeWhile isSeparator).length)
    = (line.drop place).dropWhile isSeparator
  := by
  let gap := (line.drop place).takeWhile isSeparator
  calc line.drop (place + gap.length)
    _ = (line.drop place).drop gap.length := List.drop_drop.symm
    _ = (gap ++ (line.drop place).dropWhile isSeparator).drop gap.length := by
      rw [List.takeWhile_append_dropWhile]
    _ = (line.drop place).dropWhile isSeparator := List.drop_left

/-- A round that starts in front of `token` finds it, and the search goes on behind it. -/
theorem search_token {c : Char} {rest : List Char} {token : Token}
    (hstart : place + ((line.drop place).takeWhile isSeparator).length = start)
    (hdrop : line.drop start = c :: rest) (htoken : first? (c :: rest) = some token) :
  search line (rounds + 1) place found
    = search line rounds (start + token.text.length) (found ++ [token])
  := by
  rw [search, hstart, hdrop]
  rw [first?] at htoken
  split at htoken
  next => cases htoken
  next kind word hlongest =>
    simp only [hlongest]
    split at htoken
    next hkeyword =>
      obtain rfl := Option.some.inj htoken
      rw [if_pos hkeyword]
    next hkeyword =>
      obtain rfl := Option.some.inj htoken
      rw [if_neg hkeyword, String.length_ofList]

/-- A round that starts in front of a foreign character ends the search. -/
theorem search_foreign {c : Char} {rest : List Char}
    (hstart : place + ((line.drop place).takeWhile isSeparator).length = start)
    (hdrop : line.drop start = c :: rest) (hnone : first? (c :: rest) = none) :
  search line (rounds + 1) place found = throw ⟨c, start⟩
  := by
  rw [search, hstart, hdrop]
  rw [first?] at hnone
  split at hnone
  next hlongest => simp only [hlongest]
  next => split at hnone <;> cases hnone

/-- With more rounds than there are characters from `place` on, a search comes to an end, with the
answer of a scan of these characters. -/
theorem search_eq_result (h : line.length - place < rounds) :
  (search line rounds place found).run
    = some ((Scan.ofChars place 0 (line.drop place)).result.map (found ++ ·))
  := by
  induction rounds generalizing place found with
  | zero => cases h
  | succ rounds ih =>
    obtain ⟨start, hstart⟩ :
        ∃ start, place + ((line.drop place).takeWhile isSeparator).length = start := ⟨_, rfl⟩
    have hdrop : (line.drop place).dropWhile isSeparator = line.drop start := by
      rw [← drop_separators, hstart]
    rw [Scan.ofChars_dropWhile, hstart, hdrop]
    cases hrest : line.drop start with
    | nil =>
      rw [search, hstart, hrest]
      simp [Scan.ofChars, Scan.result, Scan.tokens, Except.map]
    | cons c rest =>
      cases hfirst : first? (c :: rest) with
      | none =>
        have hhead : c ∈ ((line.drop place).dropWhile isSeparator).head? := by
          rw [hdrop, hrest]
          rfl
        have hseparator : isSeparator c = false := of_mem_head?_dropWhile hhead
        rw [search_foreign hstart hrest hfirst,
          Scan.ofChars_foreign _ _ (isForeign_iff.mpr ⟨hseparator, hfirst⟩)]
        rfl
      | some token =>
        obtain ⟨later, hchars, hleads⟩ := leads_of_first? hfirst
        have hlater : line.drop (start + token.text.length) = later := by
          rw [← List.drop_drop, hrest, hchars, ← String.length_toList, List.drop_left]
        -- The token is not empty, so there are fewer characters behind it.
        have hfewer : line.length - (start + token.text.length) < rounds := by
          have hpos := List.length_pos_iff.mpr (text_ne_nil_of_isWellFormed hleads.wellFormed)
          have hlength := congrArg List.length hrest
          rw [List.length_drop, List.length_cons] at hlength
          rw [String.length_toList] at hpos
          omega
        rw [search_token hstart hrest hfirst, ih hfewer, hlater, hchars,
          Scan.ofChars_token _ hleads, Scan.result_cons]
        cases (Scan.ofChars (start + token.text.length) 0 later).result <;> simp [Except.map]

/-- The search of a line comes to an end, with the answer of `tokenize`, in no more rounds than the
line has characters, and one more. -/
theorem search_eq_tokenize (line : String) {rounds : Nat} (h : line.length < rounds) :
  (search line.toList rounds 0 []).run = some (tokenize line)
  := by
  rw [search_eq_result (by rwa [String.length_toList]), List.drop_zero, tokenize, scan]
  cases (Scan.ofChars 0 0 line.toList).result <;> rfl

end Token

end IntScript
