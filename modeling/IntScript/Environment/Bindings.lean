/-!
# Bindings

Lists of bindings in strictly ascending order of their names.  `insertBinding` keeps the order,
and a list in ascending order is determined by what it binds each name to.
-/

namespace IntScript

/-- A name and the integer it stands for. -/
abbrev Binding := String × Int

/-- The names in `bindings` are in strictly ascending order, so there is at most one binding for
each. -/
def Ascending (bindings : List Binding) : Prop :=
  bindings.Pairwise fun a b => a.1 < b.1

/-- Puts the binding of `name` to `value` in its place, instead of an earlier one for `name`. -/
def insertBinding (name : String) (value : Int) : List Binding → List Binding
  | [] => [(name, value)]
  | binding :: rest =>
    if name < binding.1 then (name, value) :: binding :: rest
    else if name = binding.1 then (name, value) :: rest
    else binding :: insertBinding name value rest

/-- The bindings after `insertBinding` are the new one and some of those before. -/
theorem mem_insertBinding {name : String} {value : Int} {bindings : List Binding}
    {binding : Binding} (h : binding ∈ insertBinding name value bindings) :
  binding = (name, value) ∨ binding ∈ bindings
  := by
  induction bindings with
  | nil =>
    left
    apply List.mem_singleton.mp h
  | cons head rest ih =>
    unfold insertBinding at h
    split at h
    · apply List.mem_cons.mp h
    · split at h
      · rcases List.mem_cons.mp h with h | h
        · left
          apply h
        · right
          apply List.mem_cons_of_mem _ h
      · rcases List.mem_cons.mp h with rfl | h
        · right
          apply List.mem_cons_self
        · rcases ih h with h | h
          · left
            apply h
          · right
            apply List.mem_cons_of_mem _ h

/-- A `name` is looked up in `head` first, and then in `rest`. -/
theorem lookup_cons_eq (head : Binding) (rest : List Binding) (x : String) :
  (head :: rest).lookup x = if x = head.1 then some head.2 else rest.lookup x
  := by
  obtain ⟨name, value⟩ := head
  by_cases h : x = name
  · simp [h]
  · have hbeq : (x == name) = false := beq_false_of_ne h
    simp [List.lookup_cons, hbeq, h]

/-- After `insertBinding name value`, looking up `name` gives `value`, and other names give what
they did. -/
theorem lookup_insertBinding (name x : String) (value : Int) (bindings : List Binding) :
  (insertBinding name value bindings).lookup x
    = if x = name then some value else bindings.lookup x
  := by
  induction bindings with
  | nil => simp [insertBinding, lookup_cons_eq]
  | cons head rest ih =>
    unfold insertBinding
    split
    · rw [lookup_cons_eq]
    · split
      next heq =>
        rw [lookup_cons_eq, lookup_cons_eq, heq]
        split <;> rfl
      next hne =>
        rw [lookup_cons_eq, lookup_cons_eq, ih]
        split
        next hx => rw [if_neg (hx ▸ Ne.symm hne)]
        next => rfl

/-- If `bindings` are `Ascending`, then they are so after `insertBinding`. -/
theorem ascending_insertBinding (name : String) (value : Int) {bindings : List Binding}
    (h : Ascending bindings) :
  Ascending (insertBinding name value bindings)
  := by
  induction bindings with
  | nil => apply List.pairwise_singleton
  | cons head rest ih =>
    obtain ⟨hhead, hrest⟩ := List.pairwise_cons.mp h
    unfold insertBinding
    split
    next hlt =>
      apply List.pairwise_cons.mpr
      refine ⟨?_, h⟩
      intro b hb
      rcases List.mem_cons.mp hb with rfl | hb
      · apply hlt
      · apply String.lt_trans hlt (hhead b hb)
    next hlt =>
      split
      next heq =>
        apply List.pairwise_cons.mpr
        refine ⟨?_, hrest⟩
        intro b hb
        rw [heq]
        apply hhead b hb
      next hne =>
        apply List.pairwise_cons.mpr
        refine ⟨?_, ih hrest⟩
        intro b hb
        rcases mem_insertBinding hb with rfl | hb
        · apply Std.lt_of_le_of_ne (String.not_lt.mp hlt) (Ne.symm hne)
        · apply hhead b hb

/-- A `name` that comes before all the names in `bindings` is not bound. -/
theorem lookup_eq_none_of_lt {bindings : List Binding} {name : String}
    (h : ∀ b ∈ bindings, name < b.1) :
  bindings.lookup name = none
  := by
  induction bindings with
  | nil => rfl
  | cons head rest ih =>
    have hne : name ≠ head.1 := by
      intro heq
      have hlt := h head List.mem_cons_self
      rw [heq] at hlt
      apply String.lt_irrefl head.1 hlt
    rw [lookup_cons_eq, if_neg hne]
    apply ih
    intro b hb
    apply h b (List.mem_cons_of_mem _ hb)

/-- If `a :: as` and `b :: bs` bind each name to the same integer, and `b` comes first among `b ::
bs`, then the name of `a` does not come before that of `b`. -/
theorem not_lt_of_lookup_eq {a b : Binding} {as bs : List Binding}
    (hbs : ∀ c ∈ bs, b.1 < c.1) (h : ∀ name, (a :: as).lookup name = (b :: bs).lookup name) :
  ¬ a.1 < b.1
  := by
  intro hlt
  have hnone : (b :: bs).lookup a.1 = none := by
    apply lookup_eq_none_of_lt
    intro c hc
    rcases List.mem_cons.mp hc with rfl | hc
    · apply hlt
    · apply String.lt_trans hlt (hbs c hc)
  rw [← h, lookup_cons_eq, if_pos rfl] at hnone
  cases hnone

/-- If `as` and `bs` are `Ascending` and bind each name to the same integer, then they are equal. -/
theorem eq_of_lookup_eq {as bs : List Binding} (ha : Ascending as) (hb : Ascending bs)
    (h : ∀ name, as.lookup name = bs.lookup name) :
  as = bs
  := by
  induction as generalizing bs with
  | nil =>
    cases bs with
    | nil => rfl
    | cons b bs => simpa [lookup_cons_eq] using h b.1
  | cons a as ih =>
    cases bs with
    | nil => simpa [lookup_cons_eq] using h a.1
    | cons b bs =>
      obtain ⟨ha, has⟩ := List.pairwise_cons.mp ha
      obtain ⟨hb, hbs⟩ := List.pairwise_cons.mp hb
      have hname : a.1 = b.1 := by
        apply Decidable.byContradiction
        intro hne
        apply not_lt_of_lookup_eq ha fun name => (h name).symm
        apply Std.lt_of_le_of_ne (String.not_lt.mp (not_lt_of_lookup_eq hb h)) (Ne.symm hne)
      have hvalue : a.2 = b.2 := by
        have := h a.1
        rw [lookup_cons_eq, lookup_cons_eq, if_pos rfl, if_pos hname] at this
        apply Option.some.inj this
      have hrest : as = bs := by
        apply ih has hbs
        intro name
        by_cases heq : name = a.1
        · rw [heq, lookup_eq_none_of_lt ha, hname, lookup_eq_none_of_lt hb]
        · have := h name
          rw [lookup_cons_eq, lookup_cons_eq, if_neg heq, if_neg (hname ▸ heq)] at this
          apply this
      rw [hrest, Prod.ext hname hvalue]

end IntScript
