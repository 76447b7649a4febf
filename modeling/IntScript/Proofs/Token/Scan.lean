import IntScript.Token.WellFormed
import Mathlib.Data.List.TakeWhile
import Mathlib.Tactic.Use

/-!
# How a text is scanned

The token at the front of a text is the well-formed token whose text the characters begin with
and which the next character does not prolong (`Token.first?_eq_some_iff`).  So a text is
scanned in one of four ways: it is empty, or it begins with a separator, with a token, or with a
foreign character.  `scan_induction` is the induction that follows a scan along these ways.
-/

namespace IntScript

/-! ### Classes of characters -/

/-- The character `c` neither separates tokens nor occurs in one. -/
def isForeign (c : Char) : Bool :=
  !isSeparator c && (Kind.ofPunctuation? c).isNone && !c.isAlphanum

/-- A letter is a character of one of two ranges. -/
theorem isAlpha_iff_toNat {c : Char} :
  c.isAlpha ↔ (65 ≤ c.toNat ∧ c.toNat ≤ 90) ∨ (97 ≤ c.toNat ∧ c.toNat ≤ 122)
  := by
  have hupper : c.isUpper ↔ 65 ≤ c.toNat ∧ c.toNat ≤ 90 := decide_eq_true_iff
  have hlower : c.isLower ↔ 97 ≤ c.toNat ∧ c.toNat ≤ 122 := by
    apply Iff.trans Bool.and_eq_true_iff
    apply and_congr
    · apply decide_eq_true_iff
    · apply decide_eq_true_iff
  apply Iff.trans Bool.or_eq_true_iff
  apply or_congr hupper hlower

theorem isAlphanum_of_isDigit {c : Char} (h : c.isDigit) :
  c.isAlphanum
  := by
  simp [Char.isAlphanum, h]

theorem isAlphanum_of_isAlpha {c : Char} (h : c.isAlpha) :
  c.isAlphanum
  := by
  simp [Char.isAlphanum, h]

/-- A letter is not a digit. -/
theorem isDigit_of_isAlpha {c : Char} (h : c.isAlpha) :
  c.isDigit = false
  := by
  rw [isAlpha_iff_toNat] at h
  apply Bool.eq_false_iff.mpr
  intro hdigit
  have hrange : 48 ≤ c.toNat ∧ c.toNat ≤ 57 := Char.isDigit_iff_toNat.mp hdigit
  omega

/-- A letter or a digit is no punctuation. -/
theorem Kind.ofPunctuation?_of_isAlphanum {c : Char} (h : c.isAlphanum) :
  Kind.ofPunctuation? c = none
  := by
  unfold Kind.ofPunctuation?
  split
  all_goals first | rfl | cases h

theorem isSeparator_eq_false {c : Char} (hspace : c ≠ ' ') (htab : c ≠ '\t')
    (hfeed : c ≠ '\n') :
  isSeparator c = false
  := by
  simp [isSeparator, hspace, htab, hfeed]

/-- A letter or a digit is no separator. -/
theorem isSeparator_of_isAlphanum {c : Char} (h : c.isAlphanum) :
  isSeparator c = false
  := by
  apply isSeparator_eq_false
  all_goals
    rintro rfl
    cases h

/-- A punctuation character is no separator. -/
theorem isSeparator_of_ofPunctuation? {c : Char} {kind : Kind}
    (h : Kind.ofPunctuation? c = some kind) :
  isSeparator c = false
  := by
  apply isSeparator_eq_false
  all_goals
    rintro rfl
    cases h

/-- A punctuation character `c` is the spelling of its `kind`. -/
theorem Kind.spelling?_of_ofPunctuation? {c : Char} {kind : Kind}
    (h : Kind.ofPunctuation? c = some kind) :
  kind.spelling? = some (String.ofList [c])
  := by
  unfold Kind.ofPunctuation? at h
  split at h
  all_goals cases h
  all_goals rfl

/-- By `Kind.spelling?`, a kind that is written in one way only is that of the keyword or of
punctuation. -/
theorem Kind.spelling?_eq_some_iff {kind : Kind} {text : String} :
  kind.spelling? = some text
    ↔ ⟨kind, text⟩ = Token.keyword
      ∨ ∃ c, Kind.ofPunctuation? c = some kind ∧ text = String.ofList [c]
  := by
  constructor
  · intro h
    cases kind with
    | print =>
      cases h
      left
      rfl
    | lparen => cases h; exact .inr ⟨'(', rfl, by decide⟩
    | rparen => cases h; exact .inr ⟨')', rfl, by decide⟩
    | plus => cases h; exact .inr ⟨'+', rfl, by decide⟩
    | minus => cases h; exact .inr ⟨'-', rfl, by decide⟩
    | multiply => cases h; exact .inr ⟨'*', rfl, by decide⟩
    | divide => cases h; exact .inr ⟨'/', rfl, by decide⟩
    | equals => cases h; exact .inr ⟨'=', rfl, by decide⟩
    | number => cases h
    | identifier => cases h
  · rintro (h | ⟨c, hc, rfl⟩)
    · cases h
      rfl
    · apply spelling?_of_ofPunctuation? hc

/-! ### The token at the front -/

/-- The characters that prolong a token of the given kind. -/
def Kind.takes : Kind → Char → Bool
  | number, c => c.isDigit
  | identifier, c => c.isAlphanum
  | _, _ => false

/-- Only numbers and names can be prolonged, and only by letters and digits. -/
theorem Kind.cases_of_takes {kind : Kind} {c : Char} (h : kind.takes c) :
  (kind = .number ∨ kind = .identifier) ∧ c.isAlphanum
  := by
  cases kind with
  | number => use .inl rfl, isAlphanum_of_isDigit h
  | identifier => use .inr rfl, h
  | _ => cases h

/-- The `token` may stand in front of `rest`: it is well formed, and not prolonged by the first
character. -/
structure Token.Leads (token : Token) (rest : List Char) : Prop where
  wellFormed : token.isWellFormed
  ends : ∀ c ∈ rest.head?, token.kind.takes c = false

namespace Token

/-- If `text` is the only spelling of `kind`, then the token is well formed. -/
theorem isWellFormed_of_spelling? {kind : Kind} {text : String} (h : kind.spelling? = some text) :
  isWellFormed ⟨kind, text⟩
  := by
  cases kind <;> cases h <;> rfl

/-- If `token` is a well-formed number, then its text is a digit `c` and `digits` behind it. -/
theorem digits_of_isWellFormed {token : Token} (hkind : token.kind = .number)
    (h : token.isWellFormed) :
  ∃ c digits, token.text.toList = c :: digits ∧ c.isDigit ∧ ∀ d ∈ digits, d.isDigit
  := by
  simp only [isWellFormed, hkind, Decimal.isNumeral, Bool.and_eq_true] at h
  obtain ⟨hne, hall⟩ := h
  cases hchars : token.text.toList with
  | nil =>
    rw [String.toList_eq_nil_iff] at hchars
    simp [hchars] at hne
  | cons c digits =>
    rw [hchars, List.all_cons, Bool.and_eq_true, List.all_eq_true] at hall
    use c, digits, rfl, hall.1, hall.2

/-- If `token` is a well-formed name, then its text is a letter `c` and a `word` of letters and
digits behind it, and does not begin with the keyword. -/
theorem word_of_isWellFormed {token : Token} (hkind : token.kind = .identifier)
    (h : token.isWellFormed) :
  ∃ c word, token.text.toList = c :: word ∧ c.isAlpha ∧ (∀ d ∈ word, d.isAlphanum)
    ∧ keyword.text.toList.isPrefixOf (c :: word) = false
  := by
  simp only [isWellFormed, hkind, isName, Bool.and_eq_true, Bool.not_eq_true'] at h
  obtain ⟨hword, hbegins⟩ := h
  cases hchars : token.text.toList with
  | nil => simp [hchars, isWord] at hword
  | cons c word =>
    rw [hchars] at hword hbegins
    simp only [isWord, Bool.and_eq_true, List.all_eq_true] at hword
    use c, word, rfl, hword.1, hword.2

/-- If `token` is a well-formed number or name, then its text consists of letters and digits. -/
theorem isAlphanum_of_mem_text {token : Token}
    (hkind : token.kind = .number ∨ token.kind = .identifier) (h : token.isWellFormed) {c : Char}
    (hc : c ∈ token.text.toList) :
  c.isAlphanum
  := by
  rcases hkind with hkind | hkind
  · obtain ⟨d, digits, htext, hd, hdigits⟩ := digits_of_isWellFormed hkind h
    rw [htext] at hc
    rcases List.mem_cons.mp hc with rfl | hc
    · apply isAlphanum_of_isDigit hd
    · apply isAlphanum_of_isDigit (hdigits c hc)
  · obtain ⟨d, word, htext, hd, hword, -⟩ := word_of_isWellFormed hkind h
    rw [htext] at hc
    rcases List.mem_cons.mp hc with rfl | hc
    · apply isAlphanum_of_isAlpha hd
    · apply hword c hc

/-- A well-formed `token` does not have the empty text. -/
theorem text_ne_nil_of_isWellFormed {token : Token} (h : token.isWellFormed) :
  token.text.toList ≠ []
  := by
  intro hnil
  obtain ⟨kind, text⟩ := token
  obtain rfl : text = "" := String.toList_eq_nil_iff.mp hnil
  cases kind <;> cases h

/-- In front of `rest`, a punctuation character `c` is the first token. -/
theorem first?_punctuation {c : Char} {kind : Kind} (rest : List Char)
    (h : Kind.ofPunctuation? c = some kind) :
  first? (c :: rest) = some ⟨kind, String.ofList [c]⟩
  := by
  have hkind : kind ≠ .identifier := by
    rintro rfl
    cases Kind.spelling?_of_ofPunctuation? h
  simp [first?, longest?, h, hkind]

/-- In front of `rest`, a digit `c` begins a number, which is the first token. -/
theorem first?_digit {c : Char} (rest : List Char) (h : c.isDigit) :
  first? (c :: rest) = some ⟨.number, String.ofList (c :: rest.takeWhile Char.isDigit)⟩
  := by
  have hpunctuation := Kind.ofPunctuation?_of_isAlphanum (isAlphanum_of_isDigit h)
  simp [first?, longest?, hpunctuation, h]

/-- In front of `rest`, a letter `c` begins the keyword or a name, which is the first token. -/
theorem first?_alpha {c : Char} (rest : List Char) (h : c.isAlpha) :
  first? (c :: rest)
    = if keyword.text.toList.isPrefixOf (c :: rest.takeWhile Char.isAlphanum) then some keyword
      else some ⟨.identifier, String.ofList (c :: rest.takeWhile Char.isAlphanum)⟩
  := by
  have hpunctuation := Kind.ofPunctuation?_of_isAlphanum (isAlphanum_of_isAlpha h)
  simp [first?, longest?, hpunctuation, isDigit_of_isAlpha h, h]

/-- There is no first token if and only if `c` is neither punctuation nor a letter or digit. -/
theorem first?_eq_none_iff {c : Char} {rest : List Char} :
  first? (c :: rest) = none ↔ Kind.ofPunctuation? c = none ∧ c.isAlphanum = false
  := by
  constructor
  · intro h
    cases hpunctuation : Kind.ofPunctuation? c with
    | some kind =>
      rw [first?_punctuation rest hpunctuation] at h
      cases h
    | none =>
      refine ⟨rfl, ?_⟩
      apply Bool.eq_false_iff.mpr
      intro halphanum
      rcases Bool.or_eq_true_iff.mp halphanum with halpha | hdigit
      · rw [first?_alpha rest halpha] at h
        split at h <;> cases h
      · rw [first?_digit rest hdigit] at h
        cases h
  · rintro ⟨hpunctuation, halphanum⟩
    obtain ⟨halpha, hdigit⟩ := Bool.or_eq_false_iff.mp halphanum
    simp [first?, longest?, hpunctuation, halpha, hdigit]

/-- What `List.dropWhile` leaves of `chars` does not begin with a character for which `p` holds. -/
theorem of_mem_head?_dropWhile {p : Char → Bool} {chars : List Char} {c : Char}
    (h : c ∈ (chars.dropWhile p).head?) :
  p c = false
  := by
  have hnot := List.head?_dropWhile_not p chars
  rw [Option.mem_def.mp h] at hnot
  simpa using hnot

/-- A punctuation character `c` may stand in front of any `rest`. -/
theorem leads_punctuation {c : Char} {kind : Kind} (rest : List Char)
    (h : Kind.ofPunctuation? c = some kind) :
  Leads ⟨kind, String.ofList [c]⟩ rest
  := by
  have hspelling := Kind.spelling?_of_ofPunctuation? h
  constructor
  · apply isWellFormed_of_spelling? hspelling
  · intro d _
    cases kind <;> first | rfl | cases hspelling

/-- The keyword may stand in front of any `rest`. -/
theorem leads_keyword (rest : List Char) :
  keyword.Leads rest
  := by
  constructor
  · rfl
  · intro d _
    rfl

/-- A longest run of digits from `c` on is a number. -/
theorem leads_number {c : Char} (rest : List Char) (h : c.isDigit) :
  Leads ⟨.number, String.ofList (c :: rest.takeWhile Char.isDigit)⟩ (rest.dropWhile Char.isDigit)
  := by
  constructor
  · simp only [isWellFormed, Decimal.isNumeral, String.toList_ofList, List.all_cons, h,
      Bool.true_and, Bool.and_eq_true, List.all_eq_true]
    refine ⟨?_, fun d hd => List.mem_takeWhile_imp hd⟩
    simp
  · intro d hd
    apply of_mem_head?_dropWhile hd

/-- A longest run of letters and digits from `c` on is a name, unless it begins with the keyword. -/
theorem leads_name {c : Char} (rest : List Char) (h : c.isAlpha)
    (hbegins : keyword.text.toList.isPrefixOf (c :: rest.takeWhile Char.isAlphanum) = false) :
  Leads ⟨.identifier, String.ofList (c :: rest.takeWhile Char.isAlphanum)⟩
    (rest.dropWhile Char.isAlphanum)
  := by
  constructor
  · simp only [isWellFormed, isName, String.toList_ofList, isWord, h, hbegins, Bool.true_and,
      Bool.not_false, Bool.and_true, List.all_eq_true]
    intro d hd
    apply List.mem_takeWhile_imp hd
  · intro d hd
    apply of_mem_head?_dropWhile hd

/-- If the longest word of a text begins with the keyword, then so does the text. -/
theorem isPrefixOf_takeWhile {c : Char} {rest : List Char}
    (h : keyword.text.toList.isPrefixOf (c :: rest.takeWhile Char.isAlphanum)) :
  keyword.text.toList.isPrefixOf (c :: rest)
  := by
  rw [List.isPrefixOf_iff_prefix] at h ⊢
  apply h.trans
  rw [List.prefix_cons_inj]
  apply List.takeWhile_prefix

/-- If `Token.first?` finds `token`, then this stands in front of the `rest` of `chars`. -/
theorem leads_of_first? {chars : List Char} {token : Token} (h : first? chars = some token) :
  ∃ rest, chars = token.text.toList ++ rest ∧ token.Leads rest
  := by
  cases chars with
  | nil => cases h
  | cons c rest =>
    by_cases hnone : Kind.ofPunctuation? c = none ∧ c.isAlphanum = false
    · rw [first?_eq_none_iff.mpr hnone] at h
      cases h
    · cases hpunctuation : Kind.ofPunctuation? c with
      | some kind =>
        rw [first?_punctuation rest hpunctuation] at h
        cases h
        use rest, by simp
        apply leads_punctuation rest hpunctuation
      | none =>
        have halphanum : c.isAlphanum := by simpa [hpunctuation] using hnone
        rcases Bool.or_eq_true_iff.mp halphanum with halpha | hdigit
        · rw [first?_alpha rest halpha] at h
          split at h
          next hbegins =>
            cases h
            obtain ⟨rest', hrest⟩ := List.isPrefixOf_iff_prefix.mp (isPrefixOf_takeWhile hbegins)
            use rest', hrest.symm
            apply leads_keyword rest'
          next hbegins =>
            cases h
            use rest.dropWhile Char.isAlphanum, by simp
            apply leads_name rest halpha (Bool.eq_false_iff.mpr hbegins)
        · rw [first?_digit rest hdigit] at h
          cases h
          use rest.dropWhile Char.isDigit, by simp
          apply leads_number rest hdigit

/-- If `p` holds of `run` and not of what follows, then `run` is the longest one. -/
theorem takeWhile_append_of_ends {p : Char → Bool} {run rest : List Char} (hrun : ∀ c ∈ run, p c)
    (hends : ∀ c ∈ rest.head?, p c = false) :
  (run ++ rest).takeWhile p = run
  := by
  rw [List.takeWhile_append_of_pos hrun]
  cases rest with
  | nil => simp
  | cons c rest => simp [hends c rfl]

/-- In front of any `rest`, the keyword is the first token. -/
theorem first?_keyword (rest : List Char) :
  first? (keyword.text.toList ++ rest) = some keyword
  := by
  have hchars : keyword.text.toList = 'p' :: ['r', 'i', 'n', 't'] := by decide
  have hrun : (['r', 'i', 'n', 't'] ++ rest).takeWhile Char.isAlphanum
      = ['r', 'i', 'n', 't'] ++ rest.takeWhile Char.isAlphanum := by
    apply List.takeWhile_append_of_pos
    apply List.all_eq_true.mp
    rfl
  rw [hchars, List.cons_append, first?_alpha _ (by decide), hrun, hchars, ← List.cons_append,
    if_pos (List.isPrefixOf_iff_prefix.mpr (List.prefix_append _ _))]

/-- If `token` stands in front of `rest`, then it is the first token. -/
theorem first?_of_leads {token : Token} {rest : List Char} (h : token.Leads rest) :
  first? (token.text.toList ++ rest) = some token
  := by
  obtain ⟨hwellFormed, hends⟩ := h
  obtain ⟨kind, text⟩ := token
  cases kind with
  | number =>
    obtain ⟨c, digits, htext, hc, hdigits⟩ := digits_of_isWellFormed rfl hwellFormed
    rw [htext, List.cons_append, first?_digit _ hc, takeWhile_append_of_ends hdigits hends, ← htext,
      String.ofList_toList]
  | identifier =>
    obtain ⟨c, word, htext, hc, hword, hbegins⟩ := word_of_isWellFormed rfl hwellFormed
    rw [htext, List.cons_append, first?_alpha _ hc, takeWhile_append_of_ends hword hends, hbegins,
      ← htext, String.ofList_toList]
    rfl
  | _ =>
    have hspelling := Kind.spelling?_eq_some_iff.mp (of_decide_eq_true hwellFormed)
    rcases hspelling with hkeyword | ⟨c, hc, rfl⟩
    · rw [hkeyword, first?_keyword]
    · rw [String.toList_ofList, List.cons_append, first?_punctuation _ hc]

/-- By `Token.first?`, the first token is the one that stands in front of the `rest` of `chars`. -/
theorem first?_eq_some_iff {chars : List Char} {token : Token} :
  first? chars = some token ↔ ∃ rest, chars = token.text.toList ++ rest ∧ token.Leads rest
  := by
  constructor
  · apply leads_of_first?
  · rintro ⟨rest, rfl, h⟩
    apply first?_of_leads h

/-- If there is a first token, then its first character `c` is no separator. -/
theorem isSeparator_of_first? {c : Char} {rest : List Char} {token : Token}
    (h : first? (c :: rest) = some token) :
  isSeparator c = false
  := by
  cases hpunctuation : Kind.ofPunctuation? c with
  | some kind => apply isSeparator_of_ofPunctuation? hpunctuation
  | none =>
    cases halphanum : c.isAlphanum with
    | true => apply isSeparator_of_isAlphanum halphanum
    | false =>
      rw [first?_eq_none_iff.mpr ⟨hpunctuation, halphanum⟩] at h
      cases h

end Token

/-- A character `c` is foreign if and only if it is no separator and does not begin a token. -/
theorem isForeign_iff {c : Char} {rest : List Char} :
  isForeign c ↔ isSeparator c = false ∧ Token.first? (c :: rest) = none
  := by
  rw [Token.first?_eq_none_iff]
  simp [isForeign, and_assoc]

/-! ### The ways a scan goes on -/

namespace Scan

theorem ofChars_separator {c : Char} (offset : Nat) (rest : List Char) (h : isSeparator c) :
  ofChars offset 0 (c :: rest) = ofChars (offset + 1) 0 rest
  := by
  rw [ofChars, if_pos h]

theorem ofChars_foreign {c : Char} (offset : Nat) (rest : List Char) (h : isForeign c) :
  ofChars offset 0 (c :: rest) = ⟨[], some ⟨c, offset⟩⟩
  := by
  obtain ⟨hseparator, hfirst⟩ : isSeparator c = false ∧ Token.first? (c :: rest) = none :=
    isForeign_iff.mp h
  simp [ofChars, hseparator, hfirst]

/-- If `token` stands in front of `rest`, then the scan finds it and goes on with `rest`. -/
theorem ofChars_token {token : Token} {rest : List Char} (offset : Nat) (h : token.Leads rest) :
  ofChars offset 0 (token.text.toList ++ rest)
    = cons ⟨token, offset⟩ (ofChars (offset + token.text.length) 0 rest)
  := by
  have hfirst := Token.first?_of_leads h
  cases htext : token.text.toList with
  | nil => cases Token.text_ne_nil_of_isWellFormed h.wellFormed htext
  | cons c word =>
    have hlength : token.text.length = word.length + 1 := by
      rw [← String.length_toList, htext, List.length_cons]
    rw [htext, List.cons_append] at hfirst
    rw [List.cons_append, ofChars, Token.isSeparator_of_first? hfirst, if_neg Bool.false_ne_true,
      hfirst]
    simp only [hlength, Nat.add_sub_cancel]
    rw [ofChars_eq_drop (offset + 1), List.drop_left]
    congr 2
    omega

/-- The `lexeme` in front of `scan` adds its token to the result. -/
theorem result_cons (lexeme : Lexeme) (scan : Scan) :
  (cons lexeme scan).result = scan.result.map (lexeme.token :: ·)
  := by
  obtain ⟨lexemes, fault⟩ := scan
  cases fault <;> rfl

end Scan

/-- Induction along a scan. -/
@[elab_as_elim]
theorem scan_induction {motive : List Char → Prop} (chars : List Char)
    (nil : motive [])
    (separator : ∀ c rest, isSeparator c → motive rest → motive (c :: rest))
    (foreign : ∀ c rest, isForeign c → motive (c :: rest))
    (token : ∀ (token : Token) rest, token.Leads rest → motive rest →
      motive (token.text.toList ++ rest)) :
  motive chars
  := by
  -- Every way of going on leaves fewer characters.
  induction hn : chars.length using Nat.strong_induction_on generalizing chars with
  | _ n ih =>
    cases chars with
    | nil => apply nil
    | cons c rest =>
      cases hseparator : isSeparator c with
      | true =>
        apply separator c rest hseparator
        apply ih rest.length _ rest rfl
        rw [← hn, List.length_cons]
        omega
      | false =>
        cases hfirst : Token.first? (c :: rest) with
        | none => apply foreign c rest (isForeign_iff.mpr ⟨hseparator, hfirst⟩)
        | some found =>
          obtain ⟨rest', hchars, hleads⟩ := Token.leads_of_first? hfirst
          rw [hchars]
          apply token found rest' hleads
          apply ih rest'.length _ rest' rfl
          have hne := Token.text_ne_nil_of_isWellFormed hleads.wellFormed
          have hpos := List.length_pos_iff.mpr hne
          rw [← hn, hchars, List.length_append]
          omega

end IntScript
