import IntScript.Proofs.Token.Scan
import Mathlib.Data.Nat.Digits.Defs

/-!
# Reading and writing numbers

A numeral is read as the number that its digits stand for in base ten (`value_eq_positional`), and
that number is written with the same digits, apart from zeros in front (`text_value`).  There is no
limit to the number of digits.
-/

namespace IntScript.Decimal

/-! ### Numerals -/

/-- The `text` is not empty and holds nothing but digits of ASCII. -/
def OnlyDigits (text : String) : Prop :=
  text ≠ "" ∧ ∀ c ∈ text.toList, '0' ≤ c ∧ c ≤ '9'

theorem isDigit_iff {c : Char} :
  c.isDigit ↔ '0' ≤ c ∧ c ≤ '9'
  := by
  have hle (a b : Char) : a ≤ b ↔ a.toNat ≤ b.toNat := Iff.rfl
  rw [Char.isDigit_iff_toNat, hle, hle]

theorem isNumeral_iff {text : String} :
  isNumeral text ↔ OnlyDigits text
  := by
  simp only [isNumeral, OnlyDigits, Bool.and_eq_true, List.all_eq_true, isDigit_iff]
  simp

/-- The number that `digits` stand for in base ten, the last of them counting ones. -/
def positional (digits : List Char) : Nat :=
  Nat.ofDigits 10 (digits.reverse.map fun c => c.toNat - '0'.toNat)

/-- By `value`, digits are read as the number they stand for. -/
theorem value_eq_positional (digits : List Char) :
  value digits = positional digits
  := by
  rw [value, positional, Nat.ofDigits_eq_foldr, List.foldr_map, List.foldr_reverse,
    Nat.ofDigitChars_eq_foldl]
  simp only [Nat.cast_id, Nat.add_comm]

/-! ### Zeros in front -/

/-- The numeral `text` without the zeros in front of it; if there is nothing else, one of them is
kept. -/
def significant (text : String) : String :=
  match text.toList.dropWhile (· = '0') with
  | [] => "0"
  | digits => String.ofList digits

/-- The zeros in front of `digits` count for nothing. -/
theorem value_dropWhile (digits : List Char) :
  value (digits.dropWhile (· = '0')) = value digits
  := by
  induction digits with
  | nil => rfl
  | cons c digits ih =>
    by_cases hzero : c = '0'
    · rw [List.dropWhile_cons_of_pos (by simpa using hzero), ih, hzero]
      rfl
    · rw [List.dropWhile_cons_of_neg (by simpa using hzero)]

/-- A digit `c` is written for some `n` below ten. -/
theorem exists_digitChar {c : Char} (h : c.isDigit) :
  ∃ n < 10, n.digitChar = c
  := by
  have hrange : 48 ≤ c.toNat ∧ c.toNat ≤ 57 := Char.isDigit_iff_toNat.mp h
  use c.toNat - 48, by omega
  apply Char.toNat_inj.mp
  rw [Nat.toNat_digitChar_of_lt_ten (by omega)]
  omega

/-- If `n` is not zero, then `digits` that are read behind it are written behind it. -/
theorem toDigits_ofDigitChars {digits : List Char} (h : ∀ c ∈ digits, c.isDigit) {n : Nat}
    (hn : 0 < n) :
  Nat.toDigits 10 (Nat.ofDigitChars 10 digits n) = Nat.toDigits 10 n ++ digits
  := by
  induction digits generalizing n with
  | nil => rw [Nat.ofDigitChars_nil, List.append_nil]
  | cons c digits ih =>
    rw [List.forall_mem_cons] at h
    obtain ⟨hc, hdigits⟩ := h
    obtain ⟨d, hd, rfl⟩ := exists_digitChar hc
    calc Nat.toDigits 10 (Nat.ofDigitChars 10 (d.digitChar :: digits) n)
      _ = Nat.toDigits 10 (Nat.ofDigitChars 10 digits (10 * n + d)) := by
        rw [Nat.ofDigitChars_cons_digitChar_of_lt_ten hd]
      _ = Nat.toDigits 10 (10 * n + d) ++ digits := by
        apply ih hdigits
        omega
      _ = Nat.toDigits 10 n ++ [d.digitChar] ++ digits := by
        rw [← Nat.toDigits_append_toDigits (by decide) hn hd, Nat.toDigits_of_lt_base hd]
      _ = Nat.toDigits 10 n ++ d.digitChar :: digits := by
        rw [List.append_assoc, List.singleton_append]

/-- If `c` is not zero, then the digits `c :: digits` are written as they are read. -/
theorem toDigits_value {c : Char} {digits : List Char} (hzero : c ≠ '0')
    (h : ∀ d ∈ c :: digits, d.isDigit) :
  Nat.toDigits 10 (value (c :: digits)) = c :: digits
  := by
  rw [List.forall_mem_cons] at h
  obtain ⟨hc, hdigits⟩ := h
  obtain ⟨d, hd, rfl⟩ := exists_digitChar hc
  have hpos : 0 < d := by
    apply Nat.pos_of_ne_zero
    rintro rfl
    apply hzero rfl
  rw [value, Nat.ofDigitChars_cons_digitChar_of_lt_ten hd, Nat.mul_zero, Nat.zero_add,
    toDigits_ofDigitChars hdigits hpos, Nat.toDigits_of_lt_base hd, List.singleton_append]

/-- The number that `digits` stand for is written as `significant digits`. -/
theorem text_value {digits : String} (h : ∀ c ∈ digits.toList, c.isDigit) :
  text (value digits.toList) = significant digits
  := by
  rw [← value_dropWhile, significant]
  cases hrest : digits.toList.dropWhile (· = '0') with
  | nil => rfl
  | cons c rest =>
    have hc : c ≠ '0' := by
      have hfirst : c ∈ (digits.toList.dropWhile (· = '0')).head? := by
        rw [hrest]
        rfl
      simpa using Token.of_mem_head?_dropWhile hfirst
    have hdigits : ∀ d ∈ c :: rest, d.isDigit := by
      rw [← hrest]
      intro d hd
      apply h d ((List.dropWhile_sublist _).subset hd)
    calc text (value (c :: rest))
      _ = String.ofList (Nat.toDigits 10 (value (c :: rest))) := Nat.repr_eq_ofList_toDigits
      _ = String.ofList (c :: rest) := by rw [toDigits_value hc hdigits]

end IntScript.Decimal
