import IntScript.Proofs.Text.Lines
import IntScript.Text.Decimal

/-!
# Texts made of pieces

A text that is made of pieces can be taken apart again if each piece is followed by a mark that the
piece does not contain.  It is one line if its pieces contain no line feeds.
-/

namespace IntScript

/-- If `mark` is neither in `xs` nor in `ys`, then what stands in front of it can be told from what
follows. -/
theorem append_cons_inj_of_not_mem {mark : Char} {xs ys as bs : List Char} (hxs : mark ∉ xs)
    (hys : mark ∉ ys) (h : xs ++ mark :: as = ys ++ mark :: bs) :
  xs = ys ∧ as = bs
  := by
  induction xs generalizing ys with
  | nil =>
    cases ys with
    | nil => exact ⟨rfl, (List.cons.inj h).2⟩
    | cons y ys =>
      rw [(List.cons.inj h).1] at hys
      cases hys List.mem_cons_self
  | cons x xs ih =>
    rw [List.mem_cons, not_or] at hxs
    cases ys with
    | nil => cases hxs.1 (List.cons.inj h).1.symm
    | cons y ys =>
      rw [List.mem_cons, not_or] at hys
      obtain ⟨rfl, hrest⟩ := List.cons.inj h
      obtain ⟨rfl, has⟩ := ih hxs.2 hys.2 hrest
      exact ⟨rfl, has⟩

/-- The texts `text :: rest` with `separator` in between: `text`, and a separator before each of
`rest`. -/
theorem intercalate_cons (separator text : String) (rest : List String) :
  separator.intercalate (text :: rest) = text ++ String.join (rest.map (separator ++ ·))
  := by
  induction rest generalizing text with
  | nil => rw [String.intercalate_singleton, List.map_nil, String.join_nil, String.append_empty]
  | cons next rest ih =>
    rw [String.intercalate_cons_cons, ih, List.map_cons, String.join_cons, String.append_assoc,
      String.append_assoc]

/-! ### One line -/

/-- There is no line feed in `text`. -/
def OneLine (text : String) : Prop :=
  '\n' ∉ text.toList

instance (text : String) : Decidable (OneLine text) :=
  inferInstanceAs (Decidable (¬ _))

theorem Unbroken.oneLine {text : String} (h : Unbroken text) :
  OneLine text
  := fun hmem => (h _ hmem).1 rfl

namespace OneLine

theorem append {a b : String} (ha : OneLine a) (hb : OneLine b) :
  OneLine (a ++ b)
  := by
  rw [OneLine, String.toList_append, List.mem_append, not_or]
  exact ⟨ha, hb⟩

theorem join {texts : List String} (h : ∀ text ∈ texts, OneLine text) :
  OneLine (String.join texts)
  := by
  intro hmem
  rw [String.toList_join, List.mem_flatMap] at hmem
  obtain ⟨text, htext, hmem⟩ := hmem
  apply h text htext hmem

theorem intercalate {separator : String} {texts : List String} (hseparator : OneLine separator)
    (h : ∀ text ∈ texts, OneLine text) :
  OneLine (separator.intercalate texts)
  := by
  cases texts with
  | nil =>
    rw [String.intercalate_nil]
    decide
  | cons text rest =>
    rw [List.forall_mem_cons] at h
    rw [intercalate_cons]
    apply h.1.append
    apply join
    rw [List.forall_mem_map]
    intro next hnext
    apply hseparator.append (h.2 next hnext)

theorem toString {c : Char} (h : c ≠ '\n') :
  OneLine c.toString
  := by
  simpa [OneLine] using h.symm

end OneLine

/-! ### Decimal texts -/

namespace Decimal

/-- A character `c` in the decimal text of `n` is a digit. -/
theorem isDigit_of_mem_text {n : Nat} {c : Char} (h : c ∈ (text n).toList) :
  c.isDigit
  := by
  obtain ⟨-, hall⟩ := Bool.and_eq_true_iff.mp (isNumeral_repr n)
  apply List.all_eq_true.mp hall c h

/-- If `m` and `n` have the same decimal text, then they are equal. -/
theorem text_natCast_inj {m n : Nat} (h : text m = text n) :
  m = n
  := by
  have hread : ∀ k : Nat, read? (text k) = some k := read?_repr
  apply Option.some.inj
  rw [← hread m, ← hread n, h]

theorem oneLine_text (value : Int) :
  OneLine (text value)
  := by
  have hnat (n : Nat) : OneLine (text n) := by
    intro hmem
    cases isDigit_of_mem_text hmem
  cases value with
  | ofNat n => apply hnat n
  | negSucc n =>
    have hsign : OneLine "-" := by decide
    apply hsign.append (hnat (n + 1))

end Decimal

end IntScript
