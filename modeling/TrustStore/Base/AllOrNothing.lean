import TrustStore.Base.Fallible

/-!
# Computations that take effect or change nothing

Support library: a computation takes effect exactly under a condition on the state before it, and
otherwise throws and leaves a view of the state alone. A sequence of such computations is one, as
long as every part but the last leaves the view alone when it returns, too.
-/

namespace TrustStore.Base.Fallible

universe u v

variable {ε σ τ α β : Type u} {ω : Type v}

/-- The computation returns and takes effect under the condition, and otherwise throws and leaves
the view of the state alone. -/
def AllOrNothing (view : σ → ω) (m : Fallible ε σ α) (s : σ) (clean : Prop)
    (effect : σ → Prop) : Prop :=
  clean ∧ (∃ a t, m.exec s = (.ok a, t) ∧ effect t) ∨
    ¬clean ∧ ∃ e t, m.exec s = (.error e, t) ∧ view t = view s

namespace AllOrNothing

variable {view : σ → ω} {m : Fallible ε σ α} {s t : σ} {clean clean' : Prop}
  {effect effect' : σ → Prop}

/-- What throws leaves the view alone. -/
theorem view_of_error (h : AllOrNothing view m s clean effect) {e : ε}
    (hm : m.exec s = (.error e, t)) : view t = view s := by
  rcases h with ⟨-, a, u, hok, -⟩ | ⟨-, e', u, herror, hview⟩
  · rw [hok] at hm
    cases hm
  · rw [herror] at hm
    cases hm
    exact hview

/-- An equivalent condition and a weaker effect. -/
theorem mono (h : AllOrNothing view m s clean effect) (hclean : clean ↔ clean')
    (heffect : ∀ t, effect t → effect' t) : AllOrNothing view m s clean' effect' := by
  rcases h with ⟨hc, a, t, hm, ht⟩ | ⟨hc, h⟩
  · exact .inl ⟨hclean.mp hc, a, t, hm, heffect t ht⟩
  · exact .inr ⟨fun hc' => hc (hclean.mpr hc'), h⟩

/-- A sequence takes effect if both parts do. -/
theorem bind {f : α → Fallible ε σ β} (hm : AllOrNothing view m s clean (· = t))
    (hview : view t = view s) (hf : ∀ a, AllOrNothing view (f a) t clean' effect) :
    AllOrNothing view (m >>= f) s (clean ∧ clean') effect := by
  rcases hm with ⟨hc, a, t', hm, rfl⟩ | ⟨hc, e, t', hm, ht⟩
  · rcases hf a with ⟨hc', b, u, hb, hu⟩ | ⟨hc', e, u, hb, hu⟩
    · exact .inl ⟨⟨hc, hc'⟩, b, u, (exec_bind_ok hm).trans hb, hu⟩
    · exact .inr ⟨fun h => hc' h.2, e, u, (exec_bind_ok hm).trans hb, hu.trans hview⟩
  · exact .inr ⟨fun h => hc h.1, e, t', exec_bind_error hm, ht⟩

/-- What is returned may be anything. -/
theorem bind_pure (hm : AllOrNothing view m s clean effect) (f : α → β) :
    AllOrNothing view (m >>= fun a => pure (f a)) s clean effect := by
  rcases hm with ⟨hc, a, t, hm, ht⟩ | ⟨hc, e, t, hm, ht⟩
  · exact .inl ⟨hc, f a, t, exec_bind_ok hm, ht⟩
  · exact .inr ⟨hc, e, t, exec_bind_error hm, ht⟩

/-- A handler that throws again changes what is thrown. -/
theorem tryCatch {handler : ε → Fallible ε σ α} (hm : AllOrNothing view m s clean effect)
    (hhandler : ∀ e t, ∃ e', (handler e).exec t = (.error e', t)) :
    AllOrNothing view (MonadExcept.tryCatch m handler) s clean effect := by
  rcases hm with ⟨hc, a, t, hm, ht⟩ | ⟨hc, e, t, hm, ht⟩
  · refine .inl ⟨hc, a, t, ?_, ht⟩
    rw [exec_tryCatch, hm]
  · obtain ⟨e', hthrows⟩ := hhandler e t
    refine .inr ⟨hc, e', t, ?_, ht⟩
    rw [exec_tryCatch, hm]
    exact hthrows

/-- A component takes effect on the whole as it would alone. -/
theorem zoom {part : τ → σ} {update : τ → σ → τ} {whole : τ → ω} {r : τ}
    (hm : AllOrNothing view m (part r) clean effect) (hview : whole r = view (part r))
    (hupdate : ∀ s, whole (update r s) = view s) :
    AllOrNothing whole (Fallible.zoom part update m) r clean
      fun u => ∃ s, effect s ∧ u = update r s := by
  rcases hm with ⟨hc, a, t, hm, ht⟩ | ⟨hc, e, t, hm, ht⟩
  · refine .inl ⟨hc, a, update r t, ?_, t, ht, rfl⟩
    rw [exec_zoom, hm]
  · refine .inr ⟨hc, e, update r t, ?_, ?_⟩
    · rw [exec_zoom, hm]
    · rw [hupdate, ht, hview]

end AllOrNothing
end TrustStore.Base.Fallible
