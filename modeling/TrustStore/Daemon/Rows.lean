import TrustStore.Daemon.LastWord

/-!
# One row for each decision

What a daemon leaves in its database: as it only adds what it found nothing for, there is at most
one row for an application and a feature, and it holds the last word of the user. A client that
erases the row has erased the decision.
-/

namespace TrustStore.Daemon.Decisions

open TrustStore.Base
open TrustStore.Sqlite (Row)
open TrustStore.AppIdFormattingTrustAgent (format)

/-- A database has at most one row for an application and a feature. -/
def Unique (store : Sqlite.Store) : Prop :=
  ∀ id feature, (store.db.matching id feature).length ≤ 1

variable {s t : Sqlite.Store} {setup : Setup} {h h' : History Exposed}

/-- The rows that a query finds, but for their order. -/
private theorem length_matching (s : Sqlite.Store) (id : String) (feature : Feature) :
    (s.db.matching id feature).length =
      (s.db.requests.filter (Sqlite.selects (Sqlite.narrowed id feature))).length :=
  (s.db.engine.sort_perm _).length_eq

/-- Rows that are taken away leave at most one, too. -/
private theorem unique_sublist (h : Unique s) (hreq : t.db.requests.Sublist s.db.requests) :
    Unique t := by
  intro id feature
  rw [length_matching]
  have hone := h id feature
  rw [length_matching] at hone
  exact (hreq.filter _).length_le.trans hone

/-- A row that is selected for an application and a feature is of no others. -/
private theorem narrowed_eq {row : Row} {id id' : String} {feature feature' : Feature}
    (h : Sqlite.selects (Sqlite.narrowed id feature) row = true)
    (h' : Sqlite.selects (Sqlite.narrowed id' feature') row = true) :
    id = id' ∧ feature = feature' := by
  rw [Sqlite.selects_narrowed, decide_eq_true_eq] at h h'
  have hid := h.1.symm.trans h'.1
  have hfeature := h.2.1.symm.trans h'.2.1
  rw [Sqlite.Value.text.injEq] at hid
  rw [Sqlite.Value.integer.injEq] at hfeature
  exact ⟨hid, Sqlite.feature_inj hfeature⟩

/-- A row that is added where there was none is the only one. -/
private theorem unique_concat (h : Unique s) {row : Row} {id : String} {feature : Feature}
    (hrow : Sqlite.selects (Sqlite.narrowed id feature) row = true)
    (hnone : s.db.matching id feature = []) (hreq : t.db.requests = s.db.requests ++ [row]) :
    Unique t := by
  intro id' feature'
  have hone := h id' feature'
  rw [length_matching] at hone ⊢
  rw [hreq, List.filter_append, List.filter_singleton]
  cases hother : Sqlite.selects (Sqlite.narrowed id' feature') row with
  | false => simpa using hone
  | true =>
    obtain ⟨rfl, rfl⟩ := narrowed_eq hrow hother
    have hempty := length_matching s id feature
    rw [hnone, List.length_nil] at hempty
    simp [← hempty]

/-- One event of a daemon keeps the rows unique. -/
private theorem unique_step {event : Event} {initial : String → Feature → Option Answer}
    (hshown : Shown setup initial h) (hunique : Unique h.state.store.store)
    (hadmissible : Admissible h event) (hstep : setup.step h event = some h') :
    Unique h'.state.store.store := by
  obtain ⟨_, hshows, -⟩ := hshown
  cases event with
  | request params =>
    obtain ⟨-, hsame | ⟨hnone, hfeature, rowid, when, answer, hadded⟩⟩ :=
      request_rows hshows.atRest hadmissible hstep
    · exact unique_sublist hunique (hsame ▸ List.Sublist.refl _)
    · refine unique_concat hunique ?_ hnone hadded
      rw [selects_ofRequest hfeature, decide_eq_true_eq]
      exact ⟨rfl, rfl⟩
  | removeApplication id =>
    cases hstep
    obtain ⟨store, hstore, -, hreq, -⟩ :=
      removeApplication_exec setup.storeBusClients hshows.atRest hadmissible
    simp only [hstore]
    exact unique_sublist hunique (hreq ▸ List.filter_sublist)
  | reset =>
    cases hstep
    obtain ⟨store, hstore, -, hreq⟩ := reset_exec setup.storeBusClients hshows.atRest
    simp only [hstore]
    exact unique_sublist hunique (hreq ▸ List.nil_sublist _)
  | restart dict =>
    rw [Setup.step] at hstep
    split at hstep
    · cases hstep
    · cases hstep
      exact hunique

/-- In every run of admissible events on a database with at most one row for an application and a
feature there stays at most one, and its answer is the last word of the user about them, or what the
database had decided before, if the user was never prompted about them. -/
theorem oneRow_run {store : Sqlite.Store} {dict : Dictionary} {events : List Event}
    (hstore : AtRest store) (hunique : Unique store)
    (hadmissible : Transition.Meets setup.step Admissible (launch dict store) events)
    (hrun : Transition.run setup.step (launch dict store) events = some h) (id : String)
    (feature : Feature) :
    h.state.store.store.db.matching id feature = [] ∨
      ∃ row, h.state.store.store.db.matching id feature = [row] ∧
        LastWord setup.user (decisions store) id feature row.request.answer
          h.state.store.prompts := by
  have hstep : ∀ g event g', Shown setup (decisions store) g ∧ Unique g.state.store.store →
      Admissible g event → setup.step g event = some g' →
        Shown setup (decisions store) g' ∧ Unique g'.state.store.store :=
    fun g event g' hkept hadmissible hstep => ⟨shown_step hkept.1 hadmissible hstep,
      unique_step hkept.1 hkept.2 hadmissible hstep⟩
  have hkept := Transition.invariant_run hstep ⟨shown_launch hstore dict, hunique⟩ hadmissible hrun
  obtain ⟨⟨t, hshows, hfaithful⟩, hone⟩ := hkept
  match hrows : h.state.store.store.db.matching id feature, hone id feature with
  | [], _ => exact .inl rfl
  | [row], _ =>
    refine .inr ⟨row, rfl, ?_⟩
    rw [← hshows.prompts]
    refine hfaithful id feature _ ?_
    rw [hshows.decision, decisions, hrows]
    rfl

/-- The row that was added after the removal is the only one. -/
theorem oneRow_run_revoked : ∃ h row,
    Transition.run camera.step (launch sockets (Sqlite.Store.empty Sqlite.Engine.stable))
      revoked = some h ∧
    h.state.store.store.db.matching "org.app_app" ⟨1⟩ = [row] ∧ row.request.answer = .denied ∧
    LastWord impatient (fun _ _ => none) "org.app_app" ⟨1⟩ .denied h.state.store.prompts := by
  obtain ⟨h, hrun⟩ : ∃ h, Transition.run camera.step
      (launch sockets (Sqlite.Store.empty Sqlite.Engine.stable)) revoked = some h := ⟨_, rfl⟩
  have hadmissible : Transition.Meets camera.step Admissible
      (launch sockets (Sqlite.Store.empty Sqlite.Engine.stable)) revoked :=
    .cons (.inr (by decide)) rfl (.cons trivial rfl (.cons (.inr (by decide)) rfl
      (.cons (.inr (by decide)) rfl (.cons (by decide : "org.app_app" ≠ "") rfl
        (.cons (.inr (by decide)) rfl trivial)))))
  have hunique : Unique (Sqlite.Store.empty Sqlite.Engine.stable) := fun _ _ => Nat.zero_le 1
  rcases oneRow_run ⟨⟨rfl, rfl⟩, rfl, rfl⟩ hunique hadmissible hrun "org.app_app" ⟨1⟩ with
    hnone | ⟨row, hrow, hword⟩
  · cases hrun
    cases hnone
  · cases hrun
    cases hrow
    exact ⟨_, _, rfl, rfl, rfl, hword⟩

end TrustStore.Daemon.Decisions
