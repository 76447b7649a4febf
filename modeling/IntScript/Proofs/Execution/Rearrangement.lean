import IntScript.Proofs.Execution.Progress

/-!
# Rearranging a program

Two neighbouring statements can be carried out in either order if they are independent.  Each of
them has the same effect whether the other was carried out before it or not, as it reads no name
that the other assigns to.  The assignments are to different names, so in both orders they lead to
the same environment, and at most one of the statements prints.

So a program that is carried out without a failure may be rearranged by swapping neighbouring
independent statements, as often as one likes (`Program.execute_rearranged`).
-/

namespace IntScript

/-- If no name is bound in both `a` and `b`, then they can be assigned in either order. -/
theorem Environment.assignAll_comm (env : Environment) {a b : List Binding}
    (h : ∀ name ∈ a.map Prod.fst, name ∉ b.map Prod.fst) :
  (env.assignAll a).assignAll b = (env.assignAll b).assignAll a
  := by
  apply ext_get?
  intro name
  by_cases hmem : name ∈ a.map Prod.fst
  · rw [get?_assignAll_of_not_mem _ (h name hmem)]
    apply agreeOn_assignAll env (env.assignAll b) a name hmem
  · rw [get?_assignAll_of_not_mem (env.assignAll b) hmem, get?_assignAll _ b, get?_assignAll _ b,
      get?_assignAll_of_not_mem env hmem]

/-! ### Effects -/

/-- In `env`, the effects `a` and `b` come to the same: they print the same text and lead to the
same environment. -/
structure Effect.Agrees (env : Environment) (a b : Effect) : Prop where
  text : a.text = b.text
  env : env.assignAll a.bindings = env.assignAll b.bindings

namespace Effect.Agrees

variable {env : Environment} {a b c : Effect}

theorem refl (env : Environment) (a : Effect) :
  Agrees env a a
  := ⟨rfl, rfl⟩

theorem trans (h : Agrees env a b) (h' : Agrees env b c) :
  Agrees env a c
  := ⟨h.text.trans h'.text, h.env.trans h'.env⟩

/-- If `a` and `b` agree in the environment that `first` leads to, then they agree behind `first`.
-/
theorem prepend (first : Effect) (h : Agrees (env.assignAll first.bindings) a b) :
  Agrees env (first ++ a) (first ++ b)
  := by
  constructor
  · rw [text_append, text_append, h.text]
  · rw [bindings_append, bindings_append, Environment.assignAll_append,
      Environment.assignAll_append, h.env]

/-- If `a` and `b` bind different names and one of them prints nothing, then they can be swapped in
front of `later`. -/
theorem swap (later : Effect) (hnames : ∀ name ∈ a.bindings.map Prod.fst,
    name ∉ b.bindings.map Prod.fst) (htext : a.text = "" ∨ b.text = "") :
  Agrees env (b ++ (a ++ later)) (a ++ (b ++ later))
  := by
  constructor
  · simp only [text_append]
    rcases htext with hempty | hempty
    · simp [hempty]
    · simp [hempty]
  · simp only [bindings_append, Environment.assignAll_append]
    rw [Environment.assignAll_comm env hnames]

end Effect.Agrees

/-! ### Independent statements -/

namespace Statement

variable {env : Environment} {s t : Statement}

/-- A statement has the same effect once names have been assigned to that are not in
`Statement.reads`. -/
theorem effect_assignAll (env : Environment) {bindings : List Binding}
    (h : ∀ name ∈ bindings.map Prod.fst, name ∉ s.reads) :
  s.effect (env.assignAll bindings) = s.effect env
  := by
  apply effect_congr
  intro name hreads
  apply Environment.get?_assignAll_of_not_mem
  intro hmem
  apply h name hmem hreads

/-- If `s` does not print, then its effect has the text `""`. -/
theorem text_of_effect {effect : Effect} (h : s.effect env = .ok effect) (hprints : ¬ s.prints) :
  effect.text = ""
  := by
  cases s with
  | print value => cases hprints rfl
  | assign name expr =>
    obtain ⟨value, -, rfl⟩ := Except.map_eq_ok_iff.mp h
    rfl

namespace Independent

theorem symm (h : s.Independent t) :
  t.Independent s
  := by
  obtain ⟨hst, hts, hprints⟩ := h
  use hts, hst
  rintro ⟨ht, hs⟩
  apply hprints ⟨hs, ht⟩

/-- If `s` and `t` are independent, then `t` neither reads nor assigns to the names bound by `s`. -/
theorem not_mem_of_effect (h : s.Independent t) {effect : Effect}
    (heffect : s.effect env = .ok effect) :
  ∀ name ∈ effect.bindings.map Prod.fst, name ∉ t.reads ∧ name ∉ t.assigns?.toList
  := by
  intro name hmem
  rw [names_of_effect heffect, Option.mem_toList] at hmem
  rw [Option.mem_toList]
  apply h.1 name hmem

/-- If `s` and then `t` evaluate to `a` and `b`, and `s` and `t` are independent, then `t` and then
`s` evaluate to `b` and `a`. -/
theorem effect_swap (h : s.Independent t) {a b : Effect} (ha : s.effect env = .ok a)
    (hb : t.effect (env.assignAll a.bindings) = .ok b) :
  t.effect env = .ok b ∧ s.effect (env.assignAll b.bindings) = .ok a
  := by
  rw [effect_assignAll env fun name hmem => (h.not_mem_of_effect ha name hmem).1] at hb
  use hb
  rw [effect_assignAll env fun name hmem => (h.symm.not_mem_of_effect hb name hmem).1, ha]

/-- If `s` and `t` are independent, then they can be swapped in front of the `rest`. -/
theorem completes_swap (h : s.Independent t) {rest : Program} {effect : Effect}
    (hcompletes : Completes env (s :: t :: rest) effect) :
  ∃ effect', Completes env (t :: s :: rest) effect' ∧ effect'.Agrees env effect
  := by
  obtain _ | @⟨_, _, _, a, _, ha, hrest⟩ := hcompletes
  obtain _ | @⟨_, _, _, b, later, hb, hlater⟩ := hrest
  obtain ⟨hb', ha'⟩ := h.effect_swap ha hb
  have hnames : ∀ name ∈ a.bindings.map Prod.fst, name ∉ b.bindings.map Prod.fst := by
    intro name hmem
    rw [names_of_effect hb]
    apply (h.not_mem_of_effect ha name hmem).2
  have htext : a.text = "" ∨ b.text = "" := by
    by_cases hs : s.prints
    · right
      apply text_of_effect hb
      intro ht
      apply h.2.2 ⟨hs, ht⟩
    · left
      apply text_of_effect ha hs
  use b ++ (a ++ later)
  constructor
  · apply Completes.cons hb' (Completes.cons ha' _)
    rw [← Environment.assignAll_comm env hnames]
    apply hlater
  · apply Effect.Agrees.swap later hnames htext

/-- If `s` and `t` are independent, then they can be swapped between `before` and `after`. -/
theorem completes_swap_within (h : s.Independent t) {before after : Program} {effect : Effect}
    (hcompletes : Completes env (before ++ s :: t :: after) effect) :
  ∃ effect', Completes env (before ++ t :: s :: after) effect' ∧ effect'.Agrees env effect
  := by
  induction before generalizing env effect with
  | nil => apply h.completes_swap hcompletes
  | cons first before ih =>
    obtain _ | @⟨_, _, _, a, _, ha, hrest⟩ := hcompletes
    obtain ⟨later, hlater, hagrees⟩ := ih hrest
    use a ++ later, Completes.cons ha hlater
    apply hagrees.prepend a

end Independent

end Statement

/-! ### Programs -/

/-- If `p` completes and `q` is a rearrangement of it, then `q` completes with an effect that
agrees. -/
theorem Program.Rearranged.completes {p q : Program} (h : p.Rearranged q) {env : Environment}
    {effect : Effect} (hcompletes : Completes env p effect) :
  ∃ effect', Completes env q effect' ∧ effect'.Agrees env effect
  := by
  induction h generalizing effect with
  | refl p =>
    use effect, hcompletes
    apply Effect.Agrees.refl
  | swap independent first _ ih =>
    rw [first] at hcompletes
    obtain ⟨swapped, hswapped, hagrees⟩ := independent.completes_swap_within hcompletes
    obtain ⟨effect', hcompletes', hagrees'⟩ := ih hswapped
    use effect', hcompletes'
    apply hagrees'.trans hagrees

/-- If `program` is carried out without a failure, then it completes with an effect whose text the
sink accepts. -/
theorem Execution.exists_completes {execution : Execution} {program : Program}
    (hnone : execution.failure = none) (h : (execution.steps program).failure = none) :
  ∃ effect, Completes execution.env program effect ∧ execution.sink.accepts effect.text
  := by
  induction program generalizing execution with
  | nil => use .none, .nil, Sink.accepts_empty execution.sink
  | cons statement rest ih =>
    rw [steps_cons _ _ hnone] at h
    obtain ⟨first, heffect, hroom, hstep⟩ | ⟨cause, hfailure, -⟩ := execution.step_cases statement
    · rw [hstep] at h
      have hgoing : (execution.advance first).failure = none := hnone
      obtain ⟨later, hlater, hroom'⟩ := ih hgoing h
      use first ++ later, .cons heffect hlater
      apply (Sink.accepts_append _ _ _).mpr ⟨hroom, hroom'⟩
    · rw [steps_of_failure _ hfailure, hfailure] at h
      cases h

/-- If `p` is carried out without a failure, then so is each rearrangement `q` of it, whatever the
`sink`: the sink and the environment left behind are the same. -/
theorem Program.execute_rearranged {p q : Program} (h : p.Rearranged q) (env : Environment)
    (sink : Sink) (hnone : (p.execute env sink).failure = none) :
  (q.execute env sink).failure = none
  ∧ (q.execute env sink).sink = (p.execute env sink).sink
  ∧ (q.execute env sink).env = (p.execute env sink).env
  := by
  obtain ⟨effect, hcompletes, hroom⟩ := Execution.exists_completes rfl hnone
  obtain ⟨effect', hcompletes', hagrees⟩ := h.completes hcompletes
  have hp : p.execute env sink = (Execution.start env sink).advance effect :=
    Execution.steps_of_completes hcompletes hroom rfl
  have hq : q.execute env sink = (Execution.start env sink).advance effect' := by
    apply Execution.steps_of_completes hcompletes' _ rfl
    rw [hagrees.text]
    apply hroom
  rw [hp, hq]
  refine ⟨rfl, ?_, hagrees.env⟩
  rw [Execution.advance, Execution.advance, hagrees.text]

/-- The assignment to `a` is moved to the end: behind a print, behind an assignment that reads `b`
as it does itself, and behind another print. -/
theorem Program.execute_rearranged_to_the_end :
  let first : Statement := .assign "a" (.binary .add (.name "b") (.num 1))
  let printing : Statement := .print (some (.name "b"))
  let doubling : Statement := .assign "c" (.binary .mul (.name "b") (.num 2))
  let last : Statement := .print (some (.name "c"))
  let env := Environment.ofList [("b", 3)]
  let p : Program := [first, printing, doubling, last]
  let q : Program := [printing, doubling, last, first]
  p.Rearranged q
  ∧ (p.execute env (.start none)).observation
    = ⟨"3\n6\n", .ofList [("a", 4), ("b", 3), ("c", 6)], none⟩
  ∧ (q.execute env (.start none)).failure = none
  ∧ (q.execute env (.start none)).sink = (p.execute env (.start none)).sink
  ∧ (q.execute env (.start none)).env = (p.execute env (.start none)).env
  := by
  intro first printing doubling last env p q
  have hindependent : ∀ s ∈ [printing, doubling, last], first.Independent s := by
    simp [Statement.Independent, first, printing, doubling, last, Statement.reads, Expr.reads,
      Statement.assigns?, Statement.prints]
  have hrearranged : p.Rearranged q := by
    apply Rearranged.swap (hindependent printing (by simp))
      (show p = [] ++ first :: printing :: [doubling, last] from rfl)
    apply Rearranged.swap (hindependent doubling (by simp))
      (show _ = [printing] ++ first :: doubling :: [last] from rfl)
    apply Rearranged.swap (hindependent last (by simp))
      (show _ = [printing, doubling] ++ first :: last :: [] from rfl)
    apply Rearranged.refl
  have hobservation : (p.execute env (.start none)).observation
      = ⟨"3\n6\n", .ofList [("a", 4), ("b", 3), ("c", 6)], none⟩ := by decide
  use hrearranged, hobservation
  apply execute_rearranged hrearranged env (.start none)
  apply congrArg Observation.failure hobservation

end IntScript
