/-!
# Decimal numerals

An integer is written in base ten, without leading zeros and with a minus sign in front
of a negative number.  A numeral that is read is a non-empty text of ASCII digits, of any
length and with any number of leading zeros; signs, separators and the digits of other
scripts are no part of it.
-/

namespace IntScript.Decimal

/-- The canonical decimal text of an integer, without leading zeros, and with `-` in front of a
negative number. -/
def text : Int → String
  | .ofNat n => n.repr
  | .negSucc n => "-" ++ (n + 1).repr

/-- The text `s` is a numeral: it is not empty and holds ASCII digits only. -/
def isNumeral (s : String) : Bool :=
  !s.isEmpty && s.toList.all Char.isDigit

/-- The number that `digits` stand for in base ten. -/
def value (digits : List Char) : Nat :=
  Nat.ofDigitChars 10 digits 0

/-- The number that `s` stands for, if it is a numeral. -/
def read? (s : String) : Option Nat :=
  if isNumeral s then some (value s.toList) else none

@[simp]
theorem value_toDigits (n : Nat) :
  value (Nat.toDigits 10 n) = n
  := Nat.ofDigitChars_toDigits (by decide) (by decide)

/-- The canonical text of a natural number `n` is a numeral. -/
theorem isNumeral_repr (n : Nat) :
  isNumeral n.repr
  := by
  have hdigits : ∀ c ∈ Nat.toDigits 10 n, c.isDigit := by
    intro c hc
    apply Nat.isDigit_of_mem_toDigits (by decide) (by decide) hc
  simpa [isNumeral] using hdigits

/-- The canonical text of a natural number `n` is read as `n`. -/
@[simp]
theorem read?_repr (n : Nat) :
  read? n.repr = some n
  := by
  rw [read?, if_pos (isNumeral_repr n), Nat.toList_repr, value_toDigits]

end IntScript.Decimal
