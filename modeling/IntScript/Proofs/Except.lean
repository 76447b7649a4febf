import Mathlib.Data.List.Forall2

/-!
# Results

When a result that is put together from others is a success, or a failure.
-/

namespace Except

variable {ε ε' ε'' α β : Type}

theorem map_eq_ok_iff {f : α → β} {result : Except ε α} {b : β} :
  result.map f = .ok b ↔ ∃ a, result = .ok a ∧ f a = b
  := by
  cases result <;> simp [Except.map]

theorem map_eq_error_iff {f : α → β} {result : Except ε α} {e : ε} :
  result.map f = .error e ↔ result = .error e
  := by
  cases result <;> simp [Except.map]

theorem mapError_eq_ok_iff {f : ε → ε'} {result : Except ε α} {a : α} :
  result.mapError f = .ok a ↔ result = .ok a
  := by
  cases result <;> simp [Except.mapError]

theorem mapError_eq_error_iff {f : ε → ε'} {result : Except ε α} {e' : ε'} :
  result.mapError f = .error e' ↔ ∃ e, result = .error e ∧ f e = e'
  := by
  cases result <;> simp [Except.mapError]

theorem bind_eq_ok_iff {f : α → Except ε β} {result : Except ε α} {b : β} :
  (result >>= f) = .ok b ↔ ∃ a, result = .ok a ∧ f a = .ok b
  := by
  cases result <;> simp [bind, Except.bind]

theorem bind_eq_error_iff {f : α → Except ε β} {result : Except ε α} {e : ε} :
  (result >>= f) = .error e ↔ result = .error e ∨ ∃ a, result = .ok a ∧ f a = .error e
  := by
  cases result <;> simp [bind, Except.bind]

/-- To put the error of `result` into another form by `f` and then by `g` is to do so by `g ∘ f`. -/
theorem mapError_mapError (f : ε → ε') (g : ε' → ε'') (result : Except ε α) :
  (result.mapError f).mapError g = result.mapError (g ∘ f)
  := by
  cases result <;> rfl

/-- The error of `result >>= f` is put into another form at the step that fails. -/
theorem mapError_bind (g : ε → ε') (result : Except ε α) (f : α → Except ε β) :
  (result >>= f).mapError g = result.mapError g >>= fun a => (f a).mapError g
  := by
  cases result <;> rfl

/-! ### Lists of results -/

/-- There is a result `bs` for the list `as` when there is one for each of its members. -/
theorem mapM_eq_ok_iff {f : α → Except ε β} {as : List α} {bs : List β} :
  as.mapM f = .ok bs ↔ List.Forall₂ (fun a b => f a = .ok b) as bs
  := by
  induction as generalizing bs with
  | nil =>
    rw [List.mapM_nil, List.forall₂_nil_left_iff]
    constructor
    · intro h
      cases h
      rfl
    · rintro rfl
      rfl
  | cons a as ih =>
    rw [List.mapM_cons, bind_eq_ok_iff, List.forall₂_cons_left_iff]
    constructor
    · rintro ⟨b, hb, h⟩
      obtain ⟨bs', hbs, h⟩ := bind_eq_ok_iff.mp h
      cases h
      use b, bs', hb, ih.mp hbs
    · rintro ⟨b, bs', hb, hbs, rfl⟩
      use b, hb
      rw [ih.mpr hbs]
      rfl

theorem exists_mapM_eq_ok_iff {f : α → Except ε β} {as : List α} :
  (∃ bs, as.mapM f = .ok bs) ↔ ∀ a ∈ as, ∃ b, f a = .ok b
  := by
  induction as with
  | nil =>
    constructor
    · intro _ a hmem
      cases hmem
    · intro _
      use []
      rfl
  | cons a as ih =>
    rw [List.forall_mem_cons, ← ih, List.mapM_cons]
    constructor
    · rintro ⟨bs, h⟩
      obtain ⟨b, hb, h⟩ := bind_eq_ok_iff.mp h
      obtain ⟨rest, hrest, -⟩ := bind_eq_ok_iff.mp h
      use ⟨b, hb⟩, rest
    · rintro ⟨⟨b, hb⟩, rest, hrest⟩
      use b :: rest
      rw [hb, hrest]
      rfl

/-- If there is an error for the list `as`, then it is that of its first member without a result. -/
theorem exists_of_mapM_eq_error {f : α → Except ε β} {as : List α} {e : ε}
    (h : as.mapM f = .error e) :
  ∃ before a after bs, as = before ++ a :: after ∧ before.mapM f = .ok bs ∧ f a = .error e
  := by
  induction as with
  | nil => cases h
  | cons a as ih =>
    rw [List.mapM_cons] at h
    rcases bind_eq_error_iff.mp h with hfirst | ⟨b, hfirst, h⟩
    · use [], a, as, [], rfl, rfl, hfirst
    · rcases bind_eq_error_iff.mp h with hrest | ⟨bs, -, h⟩
      · obtain ⟨before, a', after, bs, rfl, hbefore, ha'⟩ := ih hrest
        use a :: before, a', after, b :: bs, rfl
        constructor
        · rw [List.mapM_cons, hfirst, hbefore]
          rfl
        · apply ha'
      · cases h

/-- What follows a member without a result, here `bs`, has no part in the error. -/
theorem mapM_append_of_error {f : α → Except ε β} {as : List α} {e : ε}
    (h : as.mapM f = .error e) (bs : List α) :
  (as ++ bs).mapM f = .error e
  := by
  rw [List.mapM_append, h]
  rfl

/-- If there are results for `before` and an error for `a`, then this is the error for the whole
list. -/
theorem mapM_eq_error_of_first {f : α → Except ε β} {before after : List α} {a : α} {bs : List β}
    {e : ε} (hbefore : before.mapM f = .ok bs) (ha : f a = .error e) :
  (before ++ a :: after).mapM f = .error e
  := by
  rw [List.mapM_append, hbefore, List.mapM_cons, ha]
  rfl

/-- The error for the list `as` is put into another form with that of its member. -/
theorem mapM_mapError (g : ε → ε') (f : α → Except ε β) (as : List α) :
  as.mapM (fun a => (f a).mapError g) = (as.mapM f).mapError g
  := by
  induction as with
  | nil => rfl
  | cons a as ih =>
    rw [List.mapM_cons, List.mapM_cons, ih, mapError_bind]
    congr 1
    funext b
    rw [mapError_bind]
    rfl

end Except
