import IntScript.Environment
import Mathlib.Data.Finset.Card
import Mathlib.Tactic.Use

/-!
# Assigning several bindings

After bindings have been assigned one after the other, a name stands for the integer in the last
binding for it, or for what it stood for before if there is none (`Environment.get?_assignAll`).
So the names bound are those of the bindings and those bound before, and environments in which the
same bindings are assigned differ at other names only.

An environment lists each name that is bound once, with the integer that it stands for
(`Environment.mem_toList_iff`, `Environment.nodup_names`).
-/

namespace IntScript

/-- If `bindings` are `Ascending`, then `name` stands for the integer that it is listed with. -/
theorem lookup_eq_some_iff_mem {bindings : List Binding} {name : String} {value : Int}
    (h : Ascending bindings) :
  bindings.lookup name = some value ↔ (name, value) ∈ bindings
  := by
  induction bindings with
  | nil => simp
  | cons head rest ih =>
    obtain ⟨hhead, hrest⟩ := List.pairwise_cons.mp h
    rw [lookup_cons_eq, List.mem_cons]
    split
    next hname =>
      -- The first binding is the only one for its name.
      have hmem : (head.1, value) ∉ rest := by
        intro hmem
        apply String.lt_irrefl head.1 (hhead (head.1, value) hmem)
      simp [hname, hmem, Prod.ext_iff, eq_comm]
    next hname =>
      have hne : (name, value) ≠ head := by
        rintro rfl
        apply hname rfl
      simp [hne, ih hrest]

namespace Environment

/-- Each name for which `names` holds stands for the same integer in `a` and `b`, or for none in
both. -/
def AgreeOn (names : String → Prop) (a b : Environment) : Prop :=
  ∀ name, names name → a.get? name = b.get? name

/-- To assign `a ++ b` is to assign `a` and then `b`. -/
theorem assignAll_append (env : Environment) (a b : List Binding) :
  env.assignAll (a ++ b) = (env.assignAll a).assignAll b
  := List.foldl_append

/-- After `env.assignAll bindings`, the last binding for `name` counts, or else what it stood for in
`env`. -/
theorem get?_assignAll (env : Environment) (bindings : List Binding) (name : String) :
  (env.assignAll bindings).get? name = (bindings.reverse.lookup name).or (env.get? name)
  := by
  induction bindings generalizing env with
  | nil => rfl
  | cons binding rest ih =>
    have hfirst : (env.assign binding.1 binding.2).get? name
        = (List.lookup name [binding]).or (env.get? name) := by
      rw [get?_assign, lookup_cons_eq]
      split <;> rfl
    rw [List.reverse_cons, List.lookup_append, Option.or_assoc, ← hfirst]
    apply ih

theorem isSome_lookup_reverse {bindings : List Binding} {name : String} :
  (bindings.reverse.lookup name).isSome ↔ name ∈ bindings.map Prod.fst
  := by
  rw [List.lookup_isSome_iff, List.mem_map]
  constructor
  · rintro ⟨binding, hmem, hname⟩
    use binding, List.mem_reverse.mp hmem, (eq_of_beq hname).symm
  · rintro ⟨binding, hmem, rfl⟩
    use binding, List.mem_reverse.mpr hmem, beq_self_eq_true binding.1

/-- The names bound after `env.assignAll bindings` are those in `bindings` and those bound in `env`.
-/
theorem isSome_get?_assignAll {env : Environment} {bindings : List Binding} {name : String} :
  ((env.assignAll bindings).get? name).isSome
    ↔ (env.get? name).isSome ∨ name ∈ bindings.map Prod.fst
  := by
  rw [get?_assignAll, Option.isSome_or, Bool.or_eq_true, isSome_lookup_reverse, or_comm]

/-- If `bindings` do not assign to `name`, then it stands for what it stood for in `env`. -/
theorem get?_assignAll_of_not_mem (env : Environment) {bindings : List Binding} {name : String}
    (h : name ∉ bindings.map Prod.fst) :
  (env.assignAll bindings).get? name = env.get? name
  := by
  rw [← isSome_lookup_reverse, Option.not_isSome_iff_eq_none] at h
  rw [get?_assignAll, h, Option.none_or]

/-- The names in `bindings` stand for the same integers after `assignAll`, whether it starts from
`a` or from `b`. -/
theorem agreeOn_assignAll (a b : Environment) (bindings : List Binding) :
  AgreeOn (· ∈ bindings.map Prod.fst) (a.assignAll bindings) (b.assignAll bindings)
  := by
  intro name hmem
  rw [← isSome_lookup_reverse, Option.isSome_iff_exists] at hmem
  obtain ⟨value, hvalue⟩ := hmem
  rw [get?_assignAll, get?_assignAll, hvalue, Option.some_or, Option.some_or]

/-! ### The names that are bound -/

/-- In `env`, `name` stands for `value` exactly if it is listed with `value`. -/
theorem mem_toList_iff {env : Environment} {name : String} {value : Int} :
  (name, value) ∈ env.toList ↔ env.get? name = some value
  := (lookup_eq_some_iff_mem env.ascending).symm

/-- No name is listed twice in `env`. -/
theorem nodup_names (env : Environment) :
  (env.toList.map Prod.fst).Nodup
  := by
  apply List.pairwise_map.mpr
  apply env.ascending.imp
  intro a b hlt heq
  rw [heq] at hlt
  apply String.lt_irrefl b.1 hlt

/-- The names listed in `env` are those that stand for an integer. -/
theorem mem_names_iff {env : Environment} {name : String} :
  name ∈ env.toList.map Prod.fst ↔ (env.get? name).isSome
  := by
  simp [Option.isSome_iff_exists, ← mem_toList_iff]

/-- In `ofList bindings`, the last binding for `name` counts, and without one `name` is not bound.
-/
theorem get?_ofList (bindings : List Binding) (name : String) :
  (ofList bindings).get? name = bindings.reverse.lookup name
  := by
  rw [ofList, get?_assignAll, get?_empty, Option.or_none]

/-- One more binding, behind `bindings`, is assigned last. -/
theorem ofList_concat (bindings : List Binding) (name : String) (value : Int) :
  ofList (bindings ++ [(name, value)]) = (ofList bindings).assign name value
  := assignAll_append empty bindings [(name, value)]

/-- In `ofList bindings`, as many names are bound as there are distinct names in `bindings`. -/
theorem size_ofList (bindings : List Binding) :
  (ofList bindings).size = (bindings.map Prod.fst).toFinset.card
  := by
  have hnames : ((ofList bindings).toList.map Prod.fst).toFinset
      = (bindings.map Prod.fst).toFinset := by
    ext name
    rw [List.mem_toFinset, List.mem_toFinset, mem_names_iff, get?_ofList, isSome_lookup_reverse]
  rw [← hnames, List.toFinset_card_of_nodup (nodup_names _), List.length_map]
  rfl

/-- No name is bound in `ofList bindings` exactly if there are no `bindings`. -/
theorem isEmpty_ofList {bindings : List Binding} :
  (ofList bindings).isEmpty ↔ bindings = []
  := by
  have hsize : (ofList bindings).size = 0 ↔ bindings = [] := by
    simp [size_ofList]
  rw [← hsize, isEmpty, size, List.isEmpty_iff, List.length_eq_zero_iff]

end Environment

end IntScript
