/-!
# Stateful computations that may throw

Support library: a computation over a state `σ` returns a value or throws an `ε`,
and keeps the state it reached in both cases, as an imperative program does.
`exec` observes both; its equations push it through every combinator, so a caller
never unfolds the transformer stack. `zoom` runs a computation on one component of
a larger state, `guarded` adds a cleanup that runs on both ways out, and `Keeps`
collects the frame rules for relations between the states before and after.
-/

namespace TrustStore.Base

universe u

/-- A sequence of outcomes is a value only if both parts are. -/
theorem bind_eq_ok {ε α β : Type u} {x : Except ε α} {f : α → Except ε β} {b : β}
    (h : x >>= f = .ok b) : ∃ a, x = .ok a ∧ f a = .ok b := by
  cases x with
  | error e => cases h
  | ok a => exact ⟨a, rfl, h⟩

/-- A sequence of outcomes throws what one of its parts does. -/
theorem bind_eq_error {ε α β : Type u} {x : Except ε α} {f : α → Except ε β} {e : ε}
    (h : x >>= f = .error e) : x = .error e ∨ ∃ a, x = .ok a ∧ f a = .error e := by
  cases x with
  | error e' =>
    cases h
    exact .inl rfl
  | ok a => exact .inr ⟨a, rfl, h⟩

/-- Computations over `σ` that return a value or throw an `ε`, keeping the state either way. -/
abbrev Fallible (ε σ : Type u) : Type u → Type u := ExceptT ε (StateM σ)

namespace Fallible

variable {ε σ τ α β : Type u}

/-- The computation given by its outcome function. -/
def ofFn (f : σ → Except ε α × σ) : Fallible ε σ α := ExceptT.mk f

/-- Outcome and final state of a computation. -/
def exec (m : Fallible ε σ α) (s : σ) : Except ε α × σ := m.run.run s

/-- The outcome function is observed as it was given. -/
@[simp] theorem exec_ofFn (f : σ → Except ε α × σ) (s : σ) : (ofFn f).exec s = f s := rfl

/-- Returning leaves the state alone. -/
@[simp] theorem exec_pure (a : α) (s : σ) : (pure a : Fallible ε σ α).exec s = (.ok a, s) := rfl

/-- Throwing leaves the state alone. -/
@[simp] theorem exec_throw (e : ε) (s : σ) :
    (throw e : Fallible ε σ α).exec s = (.error e, s) := rfl

/-- Sequencing passes on the value and the state, and stops at the first exception. -/
@[simp] theorem exec_bind (m : Fallible ε σ α) (f : α → Fallible ε σ β) (s : σ) :
    (m >>= f).exec s =
      match m.exec s with
      | (.ok a, t) => (f a).exec t
      | (.error e, t) => (.error e, t) := by
  simp only [exec, ExceptT.run_bind, StateT.run_bind]
  rcases (ExceptT.run m).run s with ⟨_ | a, t⟩ <;> rfl

/-- A computation returns normally. -/
def Returns (m : Fallible ε σ α) (s : σ) : Prop := ∃ a t, m.exec s = (.ok a, t)

/-- After a computation that returned, the rest runs on its value and its state. -/
theorem exec_bind_ok {m : Fallible ε σ α} {f : α → Fallible ε σ β} {s t : σ} {a : α}
    (h : m.exec s = (.ok a, t)) : (m >>= f).exec s = (f a).exec t := by
  rw [exec_bind, h]

/-- After a computation that threw, the rest does not run. -/
theorem exec_bind_error {m : Fallible ε σ α} {f : α → Fallible ε σ β} {s t : σ} {e : ε}
    (h : m.exec s = (.error e, t)) : (m >>= f).exec s = (.error e, t) := by
  rw [exec_bind, h]

/-- A sequence returns only if both parts do. -/
theorem exec_bind_eq_ok {m : Fallible ε σ α} {f : α → Fallible ε σ β} {s t : σ} {b : β}
    (h : (m >>= f).exec s = (.ok b, t)) :
    ∃ a r, m.exec s = (.ok a, r) ∧ (f a).exec r = (.ok b, t) := by
  rw [exec_bind] at h
  rcases hm : m.exec s with ⟨_ | a, r⟩ <;> rw [hm] at h
  · cases h
  · exact ⟨a, r, rfl, h⟩

/-- A sequence whose second part only returns throws what its first part does. -/
theorem exec_bind_pure_eq_error {m : Fallible ε σ α} {f : α → β} {s t : σ} {e : ε}
    (h : (m >>= fun a => pure (f a)).exec s = (.error e, t)) : m.exec s = (.error e, t) := by
  rw [exec_bind] at h
  rcases hm : m.exec s with ⟨_ | a, r⟩ <;> rw [hm] at h <;> cases h
  rfl

/-- A sequence whose second part only returns leaves the state to its first part. -/
theorem exec_bind_pure_snd (m : Fallible ε σ α) (f : α → β) (s : σ) :
    ((m >>= fun a => pure (f a)).exec s).2 = (m.exec s).2 := by
  rw [exec_bind]
  rcases m.exec s with ⟨_ | a, t⟩ <;> rfl

/-- Mapping the returned value changes nothing else. -/
@[simp] theorem exec_map (f : α → β) (m : Fallible ε σ α) (s : σ) :
    (f <$> m).exec s = ((m.exec s).1.map f, (m.exec s).2) := by
  rw [map_eq_pure_bind, exec_bind]
  rcases m.exec s with ⟨_ | a, t⟩ <;> rfl

/-- Reading the state returns it. -/
@[simp] theorem exec_get (s : σ) : (get : Fallible ε σ σ).exec s = (.ok s, s) := rfl

/-- Replacing the state. -/
@[simp] theorem exec_set (s t : σ) : (set t : Fallible ε σ PUnit).exec s = (.ok ⟨⟩, t) := rfl

/-- Updating the state. -/
@[simp] theorem exec_modify (f : σ → σ) (s : σ) :
    (modify f : Fallible ε σ PUnit).exec s = (.ok ⟨⟩, f s) := rfl

/-- A branch is observed branch by branch. -/
@[simp] theorem exec_ite (c : Prop) [Decidable c] (m n : Fallible ε σ α) (s : σ) :
    (if c then m else n).exec s = if c then m.exec s else n.exec s := by
  split <;> rfl

/-- A handler runs on the state the exception left behind. -/
@[simp] theorem exec_tryCatch (m : Fallible ε σ α) (handler : ε → Fallible ε σ α) (s : σ) :
    (tryCatch m handler).exec s =
      match m.exec s with
      | (.ok a, t) => (.ok a, t)
      | (.error e, t) => (handler e).exec t := by
  simp only [exec, tryCatch, tryCatchThe, MonadExceptOf.tryCatch, ExceptT.tryCatch,
    ExceptT.run_mk, StateT.run_bind]
  have hm : StateT.run (ExceptT.run m) s = StateT.run m s := rfl
  rw [hm]
  rcases StateT.run m s with ⟨_ | a, t⟩ <;> rfl

/-- Run a computation on one component of a larger state. -/
def zoom (view : τ → σ) (update : τ → σ → τ) (m : Fallible ε σ α) : Fallible ε τ α :=
  ofFn fun t => ((m.exec (view t)).1, update t (m.exec (view t)).2)

/-- The component runs as it would alone, and is put back on both ways out. -/
@[simp] theorem exec_zoom (view : τ → σ) (update : τ → σ → τ) (m : Fallible ε σ α) (t : τ) :
    (zoom view update m).exec t =
      ((m.exec (view t)).1, update t (m.exec (view t)).2) := rfl

/-- Computations with the same outcomes are equal. -/
theorem ext {m n : Fallible ε σ α} (h : ∀ s, m.exec s = n.exec s) : m = n := funext h

/-- On a component that reads back what was last written, a sequence runs as one piece. -/
theorem zoom_bind {view : τ → σ} {update : τ → σ → τ}
    (hview : ∀ t s, view (update t s) = s)
    (hupdate : ∀ t s r, update (update t s) r = update t r)
    (m : Fallible ε σ α) (f : α → Fallible ε σ β) :
    zoom view update (m >>= f) = zoom view update m >>= fun a => zoom view update (f a) := by
  apply ext
  intro t
  simp only [exec_zoom, exec_bind]
  rcases h : m.exec (view t) with ⟨_ | a, s⟩
  · rfl
  · simp only [hview, hupdate]

/-- Returning on a component that is put back as it was read returns on the whole. -/
theorem zoom_pure {view : τ → σ} {update : τ → σ → τ} (hput : ∀ t, update t (view t) = t)
    (a : α) : zoom view update (pure a : Fallible ε σ α) = pure a := by
  apply ext
  intro t
  simp [hput]

/-- Run a cleanup of the state however the computation ends. -/
def guarded (m : Fallible ε σ α) (cleanup : σ → σ) : Fallible ε σ α :=
  ofFn fun s => ((m.exec s).1, cleanup (m.exec s).2)

/-- The cleanup applies to the state of both outcomes. -/
@[simp] theorem exec_guarded (m : Fallible ε σ α) (cleanup : σ → σ) (s : σ) :
    (guarded m cleanup).exec s = ((m.exec s).1, cleanup (m.exec s).2) := rfl

/-- Run a cleanup of the state only if the computation throws. -/
def onError (m : Fallible ε σ α) (cleanup : σ → σ) : Fallible ε σ α :=
  ofFn fun s =>
    match m.exec s with
    | (.ok a, t) => (.ok a, t)
    | (.error e, t) => (.error e, cleanup t)

/-- The cleanup applies to the state of exceptions only. -/
@[simp] theorem exec_onError (m : Fallible ε σ α) (cleanup : σ → σ) (s : σ) :
    (onError m cleanup).exec s =
      match m.exec s with
      | (.ok a, t) => (.ok a, t)
      | (.error e, t) => (.error e, cleanup t) := rfl

/-- A cleanup that surrounds a sequence surrounds its first part for exceptions only. -/
theorem guarded_bind (m : Fallible ε σ α) (f : α → Fallible ε σ β) (cleanup : σ → σ) :
    guarded (m >>= f) cleanup = onError m cleanup >>= fun a => guarded (f a) cleanup := by
  apply ext
  intro s
  simp only [exec_guarded, exec_bind, exec_onError]
  rcases m.exec s with ⟨_ | a, t⟩ <;> rfl

/-- A cleanup that surrounds a computation comes before the value that is returned for it. -/
theorem guarded_bind_pure (m : Fallible ε σ α) (b : β) (cleanup : σ → σ) :
    guarded (m >>= fun _ => pure b) cleanup = guarded m cleanup >>= fun _ => pure b := by
  apply ext
  intro s
  simp only [exec_guarded, exec_bind]
  rcases m.exec s with ⟨_ | a, t⟩ <;> rfl

/-! ### Frames -/

/-- Whatever the outcome, the states before and after are related by `R`. -/
def Keeps (R : σ → σ → Prop) (m : Fallible ε σ α) : Prop := ∀ s, R s (m.exec s).2

namespace Keeps

variable {R : σ → σ → Prop} {m : Fallible ε σ α}

/-- Returning keeps every reflexive relation. -/
theorem pure (hrefl : ∀ s, R s s) (a : α) : Keeps R (Pure.pure a : Fallible ε σ α) :=
  fun s => hrefl s

/-- Throwing keeps every reflexive relation. -/
theorem throw (hrefl : ∀ s, R s s) (e : ε) : Keeps R (MonadExcept.throw e : Fallible ε σ α) :=
  fun s => hrefl s

/-- Sequencing keeps a transitive relation that both parts keep. -/
theorem bind (htrans : ∀ {s t r}, R s t → R t r → R s r) {f : α → Fallible ε σ β}
    (hm : Keeps R m) (hf : ∀ a, Keeps R (f a)) : Keeps R (m >>= f) := by
  intro s
  have hs := hm s
  rw [exec_bind]
  rcases h : m.exec s with ⟨_ | a, t⟩
  · simpa [h] using hs
  · simp only [h] at hs ⊢
    exact htrans hs (hf a t)

/-- A branch keeps what both its arms keep. -/
theorem ite (c : Prop) [Decidable c] {n : Fallible ε σ α} (hm : Keeps R m) (hn : Keeps R n) :
    Keeps R (if c then m else n) := by
  split
  · exact hm
  · exact hn

/-- A cleanup that keeps a transitive relation may follow any computation that does. -/
theorem guarded (htrans : ∀ {s t r}, R s t → R t r → R s r) {cleanup : σ → σ}
    (hm : Keeps R m) (hc : ∀ s, R s (cleanup s)) : Keeps R (Fallible.guarded m cleanup) :=
  fun s => htrans (hm s) (hc _)

/-- A zoomed computation keeps what its update turns the component's relation into. -/
theorem zoom {S : τ → τ → Prop} {view : τ → σ} {update : τ → σ → τ}
    (hm : Keeps R m) (hu : ∀ t s, R (view t) s → S t (update t s)) :
    Keeps S (Fallible.zoom view update m) :=
  fun t => hu t _ (hm (view t))

end Keeps

/-! ### Exceptions -/

/-- Every exception of the computation satisfies `P`. -/
def Throws (P : ε → Prop) (m : Fallible ε σ α) : Prop := ∀ s e t, m.exec s = (.error e, t) → P e

namespace Throws

variable {P : ε → Prop} {m : Fallible ε σ α}

/-- Returning throws nothing. -/
theorem pure (a : α) : Throws P (Pure.pure a : Fallible ε σ α) := by
  intro s e t h
  cases h

/-- An exception is thrown as it is. -/
theorem throw {e : ε} (he : P e) : Throws P (MonadExcept.throw e : Fallible ε σ α) := by
  intro s e' t h
  cases h
  exact he

/-- Reading the state throws nothing. -/
theorem get : Throws P (MonadState.get : Fallible ε σ σ) := by
  intro s e t h
  cases h

/-- Updating the state throws nothing. -/
theorem modifyGet (f : σ → σ) : Throws P (modify f : Fallible ε σ PUnit) := by
  intro s e t h
  cases h

/-- A sequence throws what one of its parts does. -/
theorem bind {f : α → Fallible ε σ β} (hm : Throws P m) (hf : ∀ a, Throws P (f a)) :
    Throws P (m >>= f) := by
  intro s e t h
  rw [exec_bind] at h
  cases hx : m.exec s with
  | mk r u =>
    rw [hx] at h
    cases r with
    | error e' =>
      cases h
      exact hm s _ _ hx
    | ok a => exact hf a u e t h

/-- A branch throws what one of its arms does. -/
theorem ite (c : Prop) [Decidable c] {n : Fallible ε σ α} (hm : Throws P m) (hn : Throws P n) :
    Throws P (if c then m else n) := by
  split
  · exact hm
  · exact hn

/-- A handler of every exception decides what is thrown. -/
theorem tryCatch {handler : ε → Fallible ε σ α} (hhandler : ∀ e, Throws P (handler e)) :
    Throws P (MonadExcept.tryCatch m handler) := by
  intro s e t h
  rw [exec_tryCatch] at h
  cases hx : m.exec s with
  | mk r u =>
    rw [hx] at h
    cases r with
    | error e' => exact hhandler e' u e t h
    | ok a => cases h

/-- A component throws what it would alone. -/
theorem zoom {view : τ → σ} {update : τ → σ → τ} (hm : Throws P m) :
    Throws P (Fallible.zoom view update m) := by
  intro t e u h
  rw [exec_zoom] at h
  cases hx : m.exec (view t) with
  | mk r s =>
    rw [hx] at h
    cases h
    exact hm _ _ _ hx

end Throws
end Fallible
end TrustStore.Base
