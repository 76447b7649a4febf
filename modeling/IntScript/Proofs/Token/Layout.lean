import IntScript.Proofs.Token.Alphabet
import IntScript.Proofs.Token.WellFormed

/-!
# The layout of a line

How a line is put together has little influence on its tokens.

A line made of two pieces has the tokens of the first and then those of the second, unless letters
or digits meet at the border.  A fault is found in either case: it is the one of the first piece,
or else the one of the second, counted from the beginning of the line
(`tokenize_append_piecewise`).

Separators serve to keep tokens apart, and nothing else.  Well-formed tokens, written out with any
gaps between them, are found again, and no other tokens are ever found
(`exists_tokenize_iff_isWellFormed`).
-/

namespace IntScript

/-! ### Two pieces -/

/-- If `a` has a `fault`, then so has `a ++ b`, whatever `b` is. -/
theorem tokenize_append_of_error {a : String} {fault : UnexpectedCharacter}
    (h : tokenize a = .error fault) (b : String) :
  tokenize (a ++ b) = .error fault
  := by
  obtain ⟨before, after, hchars, hposition, hbefore, hforeign⟩ := exists_split_of_tokenize h
  have hline : (a ++ b).toList = before ++ fault.character :: (after ++ b.toList) := by
    rw [String.toList_append, hchars, List.append_assoc, List.cons_append]
  rw [tokenize_of_first_foreign hline hbefore hforeign, hposition]

/-- If `a` has tokens and `b` has a `fault`, then `a ++ b` has that fault, further back. -/
theorem tokenize_append_of_ok_of_error {a b : String} {ts : List Token}
    {fault : UnexpectedCharacter} (ha : tokenize a = .ok ts) (hb : tokenize b = .error fault) :
  tokenize (a ++ b) = .error (fault.shift a.length)
  := by
  obtain ⟨before, after, hchars, hposition, hbefore, hforeign⟩ := exists_split_of_tokenize hb
  have hline : (a ++ b).toList = (a.toList ++ before) ++ fault.character :: after := by
    rw [String.toList_append, hchars, List.append_assoc]
  have hfront : ∀ c ∈ a.toList ++ before, isForeign c = false :=
    List.forall_mem_append.mpr ⟨not_foreign_of_tokenize ha, hbefore⟩
  rw [tokenize_of_first_foreign hline hfront hforeign, List.length_append, hposition,
    String.length_toList]
  rfl

/-- If `a` and `b` have tokens and are `Separate`, then `a ++ b` has both.  Wherever the border is,
a fault of `a` is that of `a ++ b`; and if `a` has tokens, then a fault of `b` is, with its position
counted from the beginning of `a`. -/
theorem tokenize_append_piecewise (a b : String) :
  (∀ ts us, Separate a.toList b.toList → tokenize a = .ok ts → tokenize b = .ok us →
    tokenize (a ++ b) = .ok (ts ++ us))
  ∧ (∀ ts fault, tokenize a = .ok ts → tokenize b = .error fault →
    tokenize (a ++ b) = .error ⟨fault.character, fault.position + a.length⟩)
  ∧ ∀ fault, tokenize a = .error fault → tokenize (a ++ b) = .error fault
  := by
  refine ⟨?_, ?_, ?_⟩
  · intro ts us hseparate ha hb
    apply tokenize_append_of_ok hseparate ha hb
  · intro ts fault ha hb
    rw [tokenize_append_of_ok_of_error ha hb, UnexpectedCharacter.shift, Nat.add_comm]
  · intro fault ha
    apply tokenize_append_of_error ha

/-- In `print5a` a keyword is split off in front of a number, and neither a sign nor a foreign
character behind it makes a difference. -/
theorem tokenize_append_piecewise_behind_keyword :
  (Separate "print5a".toList "-printb".toList
    ∧ tokenize "print5a" = .ok [Token.keyword, ⟨.number, "5"⟩, ⟨.identifier, "a"⟩]
    ∧ tokenize "-printb" = .ok [⟨.minus, "-"⟩, Token.keyword, ⟨.identifier, "b"⟩]
    ∧ tokenize ("print5a" ++ "-printb")
      = .ok [Token.keyword, ⟨.number, "5"⟩, ⟨.identifier, "a"⟩, ⟨.minus, "-"⟩, Token.keyword,
        ⟨.identifier, "b"⟩])
  ∧ (tokenize "b \u00e9" = .error ⟨'\u00e9', 2⟩
    ∧ tokenize ("print5a" ++ "b \u00e9") = .error ⟨'\u00e9', 9⟩)
  ∧ tokenize ("b \u00e9" ++ "print5a") = .error ⟨'\u00e9', 2⟩
  := by
  have hfirst : tokenize "print5a" = .ok [Token.keyword, ⟨.number, "5"⟩, ⟨.identifier, "a"⟩] := by
    decide
  have hsecond : tokenize "-printb" = .ok [⟨.minus, "-"⟩, Token.keyword, ⟨.identifier, "b"⟩] := by
    decide
  have hfault : tokenize "b \u00e9" = .error ⟨'\u00e9', 2⟩ := by decide
  have hseparate : Separate "print5a".toList "-printb".toList := separate_of_head (by decide)
  obtain ⟨htokens, -, -⟩ := tokenize_append_piecewise "print5a" "-printb"
  obtain ⟨-, hlater, -⟩ := tokenize_append_piecewise "print5a" "b \u00e9"
  obtain ⟨-, -, hearlier⟩ := tokenize_append_piecewise "b \u00e9" "print5a"
  refine ⟨⟨hseparate, hfirst, hsecond, ?_⟩, ⟨hfault, ?_⟩, ?_⟩
  · apply htokens _ _ hseparate hfirst hsecond
  · apply hlater _ _ hfirst hfault
  · apply hearlier _ hfault

/-! ### Gaps -/

/-- All characters of `text` are separators. -/
def isGap (text : String) : Bool :=
  text.toList.all isSeparator

/-- If all of `chars` are separators, then the scan finds nothing. -/
theorem Scan.ofChars_of_isSeparator {chars : List Char} (offset : Nat)
    (h : ∀ c ∈ chars, isSeparator c) :
  ofChars offset 0 chars = ⟨[], none⟩
  := by
  induction chars generalizing offset with
  | nil => rfl
  | cons c rest ih =>
    rw [List.forall_mem_cons] at h
    rw [ofChars_separator _ _ h.1, ih _ h.2]

/-- A gap has no tokens. -/
theorem tokenize_gap {text : String} (h : isGap text) :
  tokenize text = .ok []
  := by
  rw [tokenize, scan, Scan.ofChars_of_isSeparator 0 (List.all_eq_true.mp h)]
  rfl

/-- There are no letters or digits in a gap. -/
theorem isAlphanum_of_mem_gap {text : String} (h : isGap text) {c : Char} (hc : c ∈ text.toList) :
  c.isAlphanum = false
  := by
  apply Bool.eq_false_iff.mpr
  intro halphanum
  have hseparator := List.all_eq_true.mp h c hc
  rw [isSeparator_of_isAlphanum halphanum] at hseparator
  cases hseparator

/-- A gap is separate from any `text` behind it. -/
theorem separate_of_gap_left {gap : String} (h : isGap gap) (text : List Char) :
  Separate gap.toList text
  := by
  rintro x hx y - ⟨halphanum, -⟩
  rw [isAlphanum_of_mem_gap h (List.mem_of_getLast? hx)] at halphanum
  cases halphanum

/-- A gap is separate from any `text` in front of it. -/
theorem separate_of_gap_right {gap : String} (text : List Char) (h : isGap gap) :
  Separate text gap.toList
  := by
  rintro x - y hy ⟨-, halphanum⟩
  rw [isAlphanum_of_mem_gap h (List.mem_of_head? hy)] at halphanum
  cases halphanum

/-- If `gap` is not empty and `a` and `b` have tokens, then `a ++ gap ++ b` has both. -/
theorem tokenize_append_gap_append {a gap b : String} {ts us : List Token} (h : isGap gap)
    (hne : gap ≠ "") (ha : tokenize a = .ok ts) (hb : tokenize b = .ok us) :
  tokenize (a ++ gap ++ b) = .ok (ts ++ us)
  := by
  have hchars : gap.toList ≠ [] := by simpa using hne
  have hhead : gap.toList.head?.any Char.isAlphanum = false := by
    rw [List.head?_eq_some_head hchars]
    apply isAlphanum_of_mem_gap h (List.head_mem hchars)
  have hlast : gap.toList.getLast?.map Char.isAlphanum = some false := by
    rw [List.getLast?_eq_some_getLast hchars, Option.map_some,
      isAlphanum_of_mem_gap h (List.getLast_mem hchars)]
  have htokens := tokenize_around ha (tokenize_gap h) hb hhead hlast
  rw [List.append_nil] at htokens
  apply htokens

/-! ### Tokens written out -/

/-- Separators to write tokens out with: `front` stands before the first token, `gap` behind the
token of each index if another one follows, and `back` behind the last.  Two tokens are never
written without a separator between them. -/
structure Layout where
  front : String
  gap : Nat → String
  back : String
  isGap_front : isGap front
  isGap_gap : ∀ index, isGap (gap index)
  gap_ne_empty : ∀ index, gap index ≠ ""
  isGap_back : isGap back

namespace Layout

/-- A single space between tokens, and nothing around them. -/
def plain : Layout where
  front := ""
  gap _ := " "
  back := ""
  isGap_front := rfl
  isGap_gap _ := rfl
  gap_ne_empty _ := by decide
  isGap_back := rfl

/-- The texts of tokens with the gaps between them, the first token having the given `index`. -/
def spaced (layout : Layout) : (index : Nat) → List Token → String
  | _, [] => ""
  | _, [token] => token.text
  | index, token :: next :: rest =>
    token.text ++ layout.gap index ++ layout.spaced (index + 1) (next :: rest)

/-- A line on which `tokens` are written out. -/
def write (layout : Layout) (tokens : List Token) : String :=
  layout.front ++ layout.spaced 0 tokens ++ layout.back

/-- If `tokens` are well formed, then they are scanned from `Layout.spaced`. -/
theorem tokenize_spaced (layout : Layout) {tokens : List Token} (index : Nat)
    (h : ∀ token ∈ tokens, token.isWellFormed) :
  tokenize (layout.spaced index tokens) = .ok tokens
  := by
  fun_induction spaced layout index tokens with
  | case1 => rfl
  | case2 _ token => apply token.tokenize_text (h token List.mem_cons_self)
  | case3 index token next rest ih =>
    rw [List.forall_mem_cons] at h
    apply tokenize_append_gap_append (layout.isGap_gap index) (layout.gap_ne_empty index)
      (token.tokenize_text h.1) (ih h.2)

/-- If `tokens` are well formed, then they are scanned from `Layout.write`. -/
theorem tokenize_write (layout : Layout) {tokens : List Token}
    (h : ∀ token ∈ tokens, token.isWellFormed) :
  tokenize (layout.write tokens) = .ok tokens
  := by
  have hfront : tokenize (layout.front ++ layout.spaced 0 tokens) = .ok ([] ++ tokens) := by
    apply tokenize_append_of_ok (separate_of_gap_left layout.isGap_front _)
      (tokenize_gap layout.isGap_front) (layout.tokenize_spaced 0 h)
  have hback := tokenize_append_of_ok (separate_of_gap_right _ layout.isGap_back) hfront
    (tokenize_gap layout.isGap_back)
  rw [List.nil_append, List.append_nil] at hback
  apply hback

end Layout

/-- By `tokenize`, some line has the given `tokens` if and only if all of them are well formed; and
this is so if and only if they are scanned from every line on which they are written out, whatever
the `layout`. -/
theorem exists_tokenize_iff_isWellFormed (tokens : List Token) :
  ((∃ line, tokenize line = .ok tokens) ↔ ∀ token ∈ tokens, token.isWellFormed)
  ∧ ((∀ token ∈ tokens, token.isWellFormed)
    ↔ ∀ layout : Layout, tokenize (layout.write tokens) = .ok tokens)
  := by
  have hwrite : (∀ token ∈ tokens, token.isWellFormed) →
      ∀ layout : Layout, tokenize (layout.write tokens) = .ok tokens := by
    intro h layout
    apply layout.tokenize_write h
  refine ⟨⟨?_, ?_⟩, ⟨hwrite, ?_⟩⟩
  · rintro ⟨line, hline⟩
    apply isWellFormed_of_tokenize hline
  · intro h
    use Layout.plain.write tokens
    apply hwrite h
  · intro h
    apply isWellFormed_of_tokenize (h .plain)

end IntScript
