/-!
# Labelled transition systems with computable steps

Support library: a system is a partial step function on states and labels, where
`none` says that the label is not enabled. A run is a finite list of labels. An
invariant that every enabled step keeps, under a condition on the state before
the step and its label, holds after every run whose steps meet the condition.
-/

namespace TrustStore.Base.Transition

universe u v w x

variable {σ : Type u} {ℓ : Type v}

/-- Take the labels in order, with `none` as soon as one of them is not enabled. -/
def run (step : σ → ℓ → Option σ) : σ → List ℓ → Option σ
  | s, [] => some s
  | s, l :: ls => (step s l).bind fun t => run step t ls

/-- Every step taken in the run meets a condition on the state before it and its label. -/
def Meets (step : σ → ℓ → Option σ) (C : σ → ℓ → Prop) : σ → List ℓ → Prop
  | _, [] => True
  | s, l :: ls => C s l ∧ ∀ t, step s l = some t → Meets step C t ls

variable {step : σ → ℓ → Option σ} {C D : σ → ℓ → Prop}

/-- The empty run stays where it is. -/
@[simp] theorem run_nil (s : σ) : run step s [] = some s := rfl

/-- A run starts with its first step. -/
theorem run_cons (s : σ) (l : ℓ) (ls : List ℓ) :
    run step s (l :: ls) = (step s l).bind fun t => run step t ls := rfl

/-- A run of one label is one step. -/
theorem run_singleton (s : σ) (l : ℓ) : run step s [l] = step s l := by
  rw [run_cons]
  exact Option.bind_fun_some (step s l)

/-- A run that succeeds splits into its first step and the rest. -/
theorem run_cons_some {s t : σ} {l : ℓ} {ls : List ℓ} :
    run step s (l :: ls) = some t ↔ ∃ r, step s l = some r ∧ run step r ls = some t := by
  rw [run_cons, Option.bind_eq_some_iff]

/-- A step that is taken meets the condition, and so do the others. -/
theorem Meets.cons {s t : σ} {l : ℓ} {ls : List ℓ} (hl : C s l) (hstep : step s l = some t)
    (hls : Meets step C t ls) : Meets step C s (l :: ls) := by
  refine ⟨hl, fun r hr => ?_⟩
  rw [hstep] at hr
  cases hr
  exact hls

/-- A weaker condition is met by the same runs. -/
theorem Meets.mono (himp : ∀ s l, C s l → D s l) {s : σ} {ls : List ℓ}
    (hC : Meets step C s ls) : Meets step D s ls := by
  induction ls generalizing s with
  | nil => trivial
  | cons l ls ih => exact ⟨himp s l hC.1, fun t ht => ih (hC.2 t ht)⟩

/-- A run that meets two conditions meets them together. -/
theorem Meets.and {s : σ} {ls : List ℓ} (hC : Meets step C s ls) (hD : Meets step D s ls) :
    Meets step (fun s l => C s l ∧ D s l) s ls := by
  induction ls generalizing s with
  | nil => trivial
  | cons l ls ih => exact ⟨⟨hC.1, hD.1⟩, fun t ht => ih (hC.2 t ht) (hD.2 t ht)⟩

/-- An invariant of the steps that meet a condition holds after every run of such steps. -/
theorem invariant_run {Inv : σ → Prop}
    (hstep : ∀ s l t, Inv s → C s l → step s l = some t → Inv t)
    {s t : σ} {ls : List ℓ} (hs : Inv s) (hC : Meets step C s ls)
    (hrun : run step s ls = some t) : Inv t := by
  induction ls generalizing s with
  | nil =>
    cases Option.some.inj hrun
    exact hs
  | cons l ls ih =>
    obtain ⟨r, hr, ht⟩ := run_cons_some.mp hrun
    exact ih (hstep s l r hs hC.1 hr) (hC.2 r hr) ht

/-- An invariant of the labels taken so far and the state, which the steps that meet a condition
keep, holds after every run of such steps. -/
theorem invariant_run_history {Inv : List ℓ → σ → Prop}
    (hstep : ∀ before s l t, Inv before s → C s l → step s l = some t → Inv (before ++ [l]) t)
    {s t : σ} {ls : List ℓ} (hs : Inv [] s) (hC : Meets step C s ls)
    (hrun : run step s ls = some t) : Inv ls t := by
  suffices h : ∀ before, Inv before s → Inv (before ++ ls) t by exact h [] hs
  clear hs
  induction ls generalizing s with
  | nil =>
    intro before hbefore
    cases Option.some.inj hrun
    rw [List.append_nil]
    exact hbefore
  | cons l ls ih =>
    intro before hbefore
    obtain ⟨r, hr, ht⟩ := run_cons_some.mp hrun
    rw [List.append_cons]
    exact ih (hC.2 r hr) ht (before ++ [l]) (hstep before s l r hbefore hC.1 hr)

/-- A condition implied by another, wherever an invariant holds, is met by the same runs. -/
theorem Meets.imp {Inv : σ → Prop}
    (hstep : ∀ s l t, Inv s → C s l → step s l = some t → Inv t)
    (himp : ∀ s l, Inv s → C s l → D s l)
    {s : σ} {ls : List ℓ} (hs : Inv s) (hC : Meets step C s ls) : Meets step D s ls := by
  induction ls generalizing s with
  | nil => trivial
  | cons l ls ih =>
    refine ⟨himp s l hs hC.1, ?_⟩
    intro t ht
    exact ih (hstep s l t hs hC.1 ht) (hC.2 t ht)

/-- A system that can follow each step of another, where these meet a condition, can follow its
runs. -/
theorem simulation_run {τ : Type w} {step' : τ → ℓ → Option τ} {R : τ → σ → Prop}
    (hstep : ∀ t s l s', R t s → C s l → step s l = some s' → ∃ t', step' t l = some t' ∧ R t' s')
    {t : τ} {s s' : σ} {ls : List ℓ} (hR : R t s) (hC : Meets step C s ls)
    (hrun : run step s ls = some s') : ∃ t', run step' t ls = some t' ∧ R t' s' := by
  induction ls generalizing t s with
  | nil =>
    cases Option.some.inj hrun
    exact ⟨t, rfl, hR⟩
  | cons l ls ih =>
    obtain ⟨r, hr, hs'⟩ := run_cons_some.mp hrun
    obtain ⟨u, hu, hRu⟩ := hstep t s l r hR hC.1 hr
    obtain ⟨t', ht', hR'⟩ := ih hRu (hC.2 r hr) hs'
    exact ⟨t', run_cons_some.mpr ⟨u, hu, ht'⟩, hR'⟩

/-- Every run meets the trivial condition. -/
theorem meets_true (s : σ) (ls : List ℓ) : Meets step (fun _ _ => True) s ls := by
  induction ls generalizing s with
  | nil => trivial
  | cons l ls ih => exact ⟨trivial, fun t _ => ih t⟩

/-- The run passes a state with the property, the first and the last state included. -/
def Visits (step : σ → ℓ → Option σ) (P : σ → Prop) (s : σ) (ls : List ℓ) : Prop :=
  ∃ before after t, ls = before ++ after ∧ run step s before = some t ∧ P t

/-- A run passes the state that it ends in. -/
theorem Visits.last {P : σ → Prop} {s t : σ} {ls : List ℓ} (hrun : run step s ls = some t)
    (ht : P t) : Visits step P s ls := ⟨ls, [], t, (List.append_nil ls).symm, hrun, ht⟩

/-- A longer run passes all the states that a shorter one does. -/
theorem Visits.append {P : σ → Prop} {s : σ} {ls : List ℓ} (h : Visits step P s ls)
    (more : List ℓ) : Visits step P s (ls ++ more) := by
  obtain ⟨before, after, t, rfl, hrun, ht⟩ := h
  exact ⟨before, after ++ more, t, List.append_assoc .., hrun, ht⟩

/-- A run goes on with one more step. -/
theorem run_concat {s r t : σ} {ls : List ℓ} {l : ℓ} (hrun : run step s ls = some r)
    (hstep : step r l = some t) : run step s (ls ++ [l]) = some t := by
  induction ls generalizing s with
  | nil =>
    cases Option.some.inj hrun
    exact run_cons_some.mpr ⟨t, hstep, rfl⟩
  | cons k ls ih =>
    obtain ⟨u, hu, hr⟩ := run_cons_some.mp hrun
    exact run_cons_some.mpr ⟨u, hu, ih hr⟩

/-- If a step against a condition leaves a mark, wherever an invariant holds, and marks last, then a
run that ends without one meets the condition. -/
theorem meets_of_unmarked {Inv Mark : σ → Prop}
    (hstep : ∀ s l t, Inv s → step s l = some t → Inv t)
    (hlasts : ∀ s l t, Mark s → step s l = some t → Mark t)
    (hmarks : ∀ s l t, Inv s → ¬C s l → step s l = some t → Mark t)
    {s t : σ} {ls : List ℓ} (hs : Inv s) (hrun : run step s ls = some t) (ht : ¬Mark t) :
    Meets step C s ls := by
  induction ls generalizing s with
  | nil => trivial
  | cons l ls ih =>
    obtain ⟨r, hr, hrest⟩ := run_cons_some.mp hrun
    have hunmarked : ¬Mark r := fun hmark =>
      ht (invariant_run (fun s l t hs _ hstep => hlasts s l t hs hstep) hmark
        (meets_true r ls) hrest)
    exact .cons (Classical.byContradiction fun hC => hunmarked (hmarks s l r hs hC hr)) hr
      (ih (hstep s l r hs hr) hrest)

/-- Whether a decidable condition is met by a run can be computed. -/
instance Meets.decidable [∀ s l, Decidable (C s l)] :
    (s : σ) → (ls : List ℓ) → Decidable (Meets step C s ls)
  | _, [] => isTrue trivial
  | s, l :: ls =>
    match h : step s l with
    | none => decidable_of_iff (C s l)
        ⟨fun hc => ⟨hc, fun _ ht => by simp [h] at ht⟩, fun hm => hm.1⟩
    | some t =>
      have := Meets.decidable t ls
      decidable_of_iff (C s l ∧ Meets step C t ls)
        ⟨fun hm => ⟨hm.1, fun r hr => by
            rw [h] at hr
            cases hr
            exact hm.2⟩,
          fun hm => ⟨hm.1, hm.2 t h⟩⟩

/-! ### Runs in parts -/

/-- A run goes through its first part. -/
theorem run_append (s : σ) (ls more : List ℓ) :
    run step s (ls ++ more) = (run step s ls).bind fun t => run step t more := by
  induction ls generalizing s with
  | nil => rfl
  | cons l ls ih =>
    rw [List.cons_append, run_cons, run_cons, Option.bind_assoc]
    exact congrArg _ (funext ih)

/-- A run that succeeds does so in both parts. -/
theorem run_append_some {s t : σ} {ls more : List ℓ} :
    run step s (ls ++ more) = some t ↔ ∃ r, run step s ls = some r ∧ run step r more = some t := by
  rw [run_append, Option.bind_eq_some_iff]

/-- A condition that is met by a run is met by its first part. -/
theorem Meets.left {s : σ} {ls more : List ℓ} (hC : Meets step C s (ls ++ more)) :
    Meets step C s ls := by
  induction ls generalizing s with
  | nil => trivial
  | cons l ls ih => exact ⟨hC.1, fun t ht => ih (hC.2 t ht)⟩

/-- And by the rest, from where the first part ends. -/
theorem Meets.right {s t : σ} {ls more : List ℓ} (hC : Meets step C s (ls ++ more))
    (hrun : run step s ls = some t) : Meets step C t more := by
  induction ls generalizing s with
  | nil =>
    cases Option.some.inj hrun
    exact hC
  | cons l ls ih =>
    obtain ⟨r, hr, ht⟩ := run_cons_some.mp hrun
    exact ih (hC.2 r hr) ht

/-- A condition that all labels of a run meet in every state is met by the run. -/
theorem meets_of_forall {s : σ} {ls : List ℓ} (hC : ∀ l ∈ ls, ∀ s, C s l) : Meets step C s ls := by
  induction ls generalizing s with
  | nil => trivial
  | cons l ls ih =>
    exact ⟨hC l List.mem_cons_self s, fun t _ => ih fun k hk => hC k (List.mem_cons_of_mem l hk)⟩

/-! ### Systems in step -/

section InStep

variable {τ : Type w} {step' : τ → ℓ → Option τ} {R : τ → σ → Prop}

/-- Systems that take the same steps, where these meet a condition, take the same runs. -/
theorem rel_run (hstep : ∀ t s l, R t s → C s l → Option.Rel R (step' t l) (step s l))
    {t : τ} {s : σ} {ls : List ℓ} (hR : R t s) (hC : Meets step C s ls) :
    Option.Rel R (run step' t ls) (run step s ls) := by
  induction ls generalizing t s with
  | nil => exact .some hR
  | cons l ls ih =>
    rw [run_cons, run_cons]
    have hl := hstep t s l hR hC.1
    cases ht : step' t l with
    | none =>
      cases hs : step s l with
      | none => exact .none
      | some r =>
        rw [ht, hs] at hl
        cases hl
    | some u =>
      cases hs : step s l with
      | none =>
        rw [ht, hs] at hl
        cases hl
      | some r =>
        rw [ht, hs] at hl
        cases hl with
        | some hur => exact ih hur (hC.2 r hs)

/-- What follows from the condition in a state that corresponds is met by the corresponding run. -/
theorem Meets.of_rel {E : τ → ℓ → Prop}
    (hstep : ∀ t s l, R t s → C s l → Option.Rel R (step' t l) (step s l))
    (himp : ∀ t s l, R t s → C s l → E t l) {t : τ} {s : σ} {ls : List ℓ} (hR : R t s)
    (hC : Meets step C s ls) : Meets step' E t ls := by
  induction ls generalizing t s with
  | nil => trivial
  | cons l ls ih =>
    refine ⟨himp t s l hR hC.1, fun u hu => ?_⟩
    have hl := hstep t s l hR hC.1
    rw [hu] at hl
    cases hs : step s l with
    | none =>
      rw [hs] at hl
      cases hl
    | some r =>
      rw [hs] at hl
      cases hl with
      | some hur => exact ih hur (hC.2 r hs)

end InStep

/-! ### What a run amounts to -/

section Amounts

variable {τ : Type w} {κ : Type x} {step' : τ → κ → Option τ} {R : τ → σ → Prop}
  {amount : σ → ℓ → List κ}

/-- What the steps of a run amount to in another system, one after the other. -/
def amounts (step : σ → ℓ → Option σ) (amount : σ → ℓ → List κ) : σ → List ℓ → List κ
  | _, [] => []
  | s, l :: ls => amount s l ++ ((step s l).map fun t => amounts step amount t ls).getD []

/-- The first step comes first. -/
theorem amounts_cons {s t : σ} {l : ℓ} (hstep : step s l = some t) (ls : List ℓ) :
    amounts step amount s (l :: ls) = amount s l ++ amounts step amount t ls := by
  rw [amounts, hstep]
  rfl

/-- A system that can do what each step of another amounts to, where these meet a condition, can do
what its runs amount to. -/
theorem amounts_run
    (hstep : ∀ t s l s', R t s → C s l → step s l = some s' →
      ∃ t', run step' t (amount s l) = some t' ∧ R t' s')
    {t : τ} {s s' : σ} {ls : List ℓ} (hR : R t s) (hC : Meets step C s ls)
    (hrun : run step s ls = some s') :
    ∃ t', run step' t (amounts step amount s ls) = some t' ∧ R t' s' := by
  induction ls generalizing t s with
  | nil =>
    cases Option.some.inj hrun
    exact ⟨t, rfl, hR⟩
  | cons l ls ih =>
    obtain ⟨r, hr, hs'⟩ := run_cons_some.mp hrun
    obtain ⟨u, hu, hRu⟩ := hstep t s l r hR hC.1 hr
    obtain ⟨t', ht', hR'⟩ := ih hRu (hC.2 r hr) hs'
    rw [amounts_cons hr]
    exact ⟨t', run_append_some.mpr ⟨u, hu, ht'⟩, hR'⟩

end Amounts

end TrustStore.Base.Transition
