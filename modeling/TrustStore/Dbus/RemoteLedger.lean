import TrustStore.Dbus.DefaultStore
import TrustStore.Sqlite.Refinement

/-!
# A ledger on the bus

Clients that resolve a store on the bus, where an SQLite store is exposed, work with a ledger:
the calls go through the messages of the bus, the objects of the queries and the prepared
statements, and what comes back is what a ledger would have returned.
-/

namespace TrustStore.Dbus.Resolve

open TrustStore.Base
open TrustStore.Sqlite (Engine QueryId)

/-- No number of a query comes around, and no query erases beyond its results: the exception would
not come back as the one of the store. -/
def Carried (l : Clients Ledger QueryId) : Operation → Prop
  | .query => l.queries.length < UInt64.size
  | .onQuery n .erase => ∀ q ∈ l.live n, (l.state.queries q).here ≠ none
  | _ => True

/-- The operation is supported by the SQLite store and carried by the bus. -/
def Supported (l : Clients Ledger QueryId) (operation : Operation) : Prop :=
  Sqlite.Supported l operation ∧ Carried l operation

instance (l : Clients Ledger QueryId) (operation : Operation) : Decidable (Carried l operation) :=
  match operation with
  | .query => inferInstanceAs (Decidable (_ < _))
  | .onQuery n .erase => Option.decidableForallMem (o := l.live n)
  | .onQuery _ .all | .onQuery _ (.forApplicationId _) | .onQuery _ (.forFeature _)
  | .onQuery _ (.forInterval _ _) | .onQuery _ (.forAnswer _) | .onQuery _ .execute
  | .onQuery _ .next | .onQuery _ .current | .onQuery _ .status
  | .add _ | .removeApplication _ | .reset | .destroy _ => isTrue trivial

instance (l : Clients Ledger QueryId) (operation : Operation) :
    Decidable (Supported l operation) :=
  inferInstanceAs (Decidable (_ ∧ _))

variable {Proper : Request → Prop} {rules : Ledger.Rules Proper} {engine : Engine}
  {c : Clients Sqlite.Store QueryId} {l : Clients Ledger QueryId} {operation : Operation}

private theorem take_error {σ κ : Type} {c : Clients σ κ} {m : Action σ Returned} {e : Exception}
    (h : (c.take m).results = c.results ++ [.error e]) : (m.exec c.state).1 = .error e := by
  have hresults : (c.take m).results = c.results ++ [(m.exec c.state).1] := rfl
  rw [hresults] at h
  simpa using h

/-- Where operations are carried, a ledger raises nothing but `NoCurrentResult`. -/
private theorem ledger_raises (hcarried : Carried l operation) :
    RaisesNoCurrentResult (Ledger.interface rules) l operation := by
  intro l' e hstep hresults
  cases operation with
  | add request =>
    cases Option.some.inj hstep
    cases take_error hresults
  | removeApplication id =>
    cases Option.some.inj hstep
    cases take_error hresults
  | reset =>
    cases Option.some.inj hstep
    cases take_error hresults
  | query =>
    cases Option.some.inj hstep
    have hmade : l.results ++ [.ok .nothing] = l.results ++ [.error e] := hresults
    simp at hmade
  | destroy n =>
    obtain ⟨q, hq, rfl⟩ := Option.map_eq_some_iff.mp hstep
    have hmade : l.results ++ [.ok .nothing] = l.results ++ [.error e] := hresults
    simp at hmade
  | onQuery n operation =>
    obtain ⟨q, hq, rfl⟩ := Option.map_eq_some_iff.mp hstep
    have hraised := take_error hresults
    cases operation with
    | erase =>
      obtain ⟨entry, hentry⟩ := Option.ne_none_iff_exists'.mp (hcarried q hq)
      have herased : ((Ledger.interface rules).onQuery q .erase).exec l.state = _ :=
        Fallible.exec_bind_ok (Ledger.erase_exec_some hentry)
      rw [herased] at hraised
      cases hraised
    | current =>
      have hcurrent := @Ledger.current_exec _ rules l.state q
      cases hhere : (l.state.queries q).here with
      | none =>
        rw [hhere] at hcurrent
        have hnone : ((Ledger.interface rules).onQuery q .current).exec l.state = _ :=
          Fallible.exec_bind_error hcurrent
        rw [hnone] at hraised
        cases hraised
        rfl
      | some entry =>
        rw [hhere] at hcurrent
        have hsome : ((Ledger.interface rules).onQuery q .current).exec l.state = _ :=
          Fallible.exec_bind_ok hcurrent
        rw [hsome] at hraised
        cases hraised
    | _ => cases hraised

/-- A store that keeps a ledger serves what is supported. -/
private theorem served_of_supported (h : Sqlite.Agree engine c l)
    (hsupported : Supported l operation) : Served Sqlite.Store.interface c operation := by
  refine served_of_raisesInCurrent Sqlite.Store.raisesInCurrent ?_ ?_
  · intro c' e hstep hresults
    have hrel := h.step hsupported.1
    rw [hstep] at hrel
    cases hl : l.step (Ledger.interface engine.rules) operation with
    | none =>
      rw [hl] at hrel
      cases hrel
    | some l' =>
      rw [hl] at hrel
      cases hrel with
      | some hagree =>
        refine ledger_raises hsupported.2 l' e hl ?_
        rw [← hagree.results, ← h.results, hresults]
  · rintro rfl
    rw [h.queries]
    exact hsupported.2

/-- Clients on the bus see what clients of a ledger would see, in every run whose operations are
all supported, and the exposed SQLite store keeps that ledger. -/
theorem remote_ledger_run {bus : Bus} {t : Token Sqlite.Store QueryId} {ledger : Ledger}
    (hempty : ∀ p, t.queryStore p = none) (hkeeps : t.store.Keeps engine ledger)
    {operations : List Operation}
    (hsupported : Transition.Meets (Clients.step (Ledger.interface engine.rules)) Supported
      (Clients.start ledger) operations) {l' : Clients Ledger QueryId}
    (hl : Transition.run (Clients.step (Ledger.interface engine.rules)) (Clients.start ledger)
      operations = some l') :
    ∃ r, Transition.run (Clients.step (remote bus Sqlite.Store.interface)) (Clients.start t)
        operations = some r ∧ r.results = l'.results ∧ r.state.store.Keeps engine l'.state := by
  have hstep : ∀ (c : Clients Sqlite.Store QueryId) l operation, Sqlite.Agree engine c l →
      Supported l operation → Option.Rel (Sqlite.Agree engine)
        (c.step Sqlite.Store.interface operation)
        (l.step (Ledger.interface engine.rules) operation) :=
    fun _ _ _ hagree hsupported => hagree.step hsupported.1
  have hstart : Sqlite.Agree engine (Clients.start t.store) (Clients.start ledger) :=
    ⟨hkeeps, rfl, rfl⟩
  have hrel := Transition.rel_run hstep hstart hsupported
  have hserved := hsupported.of_rel hstep
    (fun _ _ _ hagree hsupported => served_of_supported hagree hsupported) hstart
  rw [hl] at hrel
  cases hc : Transition.run (Clients.step Sqlite.Store.interface) (Clients.start t.store)
      operations with
  | none =>
    rw [hc] at hrel
    cases hrel
  | some c' =>
    rw [hc] at hrel
    cases hrel with
    | some hagree =>
      obtain ⟨r, hr, hsim⟩ := (Simulates.start hempty).run hserved hc
      refine ⟨r, hr, hsim.results.trans hagree.results, ?_⟩
      rw [hsim.store]
      exact hagree.state

/-- An empty SQLite store, exposed. -/
def exposedEmpty : Token Sqlite.Store QueryId :=
  ⟨Sqlite.Store.empty Engine.stable, 0, fun _ => none, []⟩

/-- Clients on the bus see two answers newest first, and erase the newer one. -/
theorem remote_ledger_run_twoAnswers : ∃ r l',
    Transition.run (Clients.step (Ledger.interface Engine.stable.rules))
      (Clients.start Ledger.empty) Sqlite.twoAnswers = some l' ∧
    Transition.run (Clients.step (remote sessionBus Sqlite.Store.interface))
      (Clients.start exposedEmpty) Sqlite.twoAnswers = some r ∧
    r.results = l'.results ∧ r.state.store.Keeps Engine.stable l'.state := by
  have hsupported : Transition.Meets (Clients.step (Ledger.interface Engine.stable.rules))
      Supported (Clients.start Ledger.empty) Sqlite.twoAnswers := by decide
  obtain ⟨r, hr⟩ := remote_ledger_run (t := exposedEmpty) (fun _ => rfl)
    (Sqlite.Store.keeps_empty Engine.stable) hsupported rfl
  exact ⟨r, _, rfl, hr⟩

end TrustStore.Dbus.Resolve
