import TrustStore.Dbus.Resolve

/-!
# The remote store simulates the exposed one

Clients of the resolved store against clients of the exposed store itself, for the same
operations in the same order. The paths of the queries in use stay different as long as no
number is used again before the counter has come around, and every operation that the handlers
answer goes the same way on both sides.
-/

namespace TrustStore.Dbus.Resolve

open TrustStore.Base
open TrustStore.Base.Fallible (Returns)

variable {σ κ : Type}

/-- The path of the query with a number, where the counter was at `counter` before the first. -/
def pathOf (counter : UInt64) (n : Nat) : ObjectPath := Token.path (counter + UInt64.ofNat n)

private theorem path_injective {m n : UInt64} (h : Token.path m = Token.path n) : m = n := by
  have hvalue := congrArg (fun path => path.value.toList) h
  have hdigits : Nat.toDigits 10 m.toNat = Nat.toDigits 10 n.toNat := by
    simpa [Token.path, toString, Nat.repr] using hvalue
  apply UInt64.toNat_inj.mp
  rw [← Nat.ofDigitChars_ten_toDigits (n := m.toNat), hdigits, Nat.ofDigitChars_ten_toDigits]

/-- Paths repeat with the counter. -/
theorem pathOf_eq_iff {counter : UInt64} {m n : Nat} :
    pathOf counter m = pathOf counter n ↔ m % UInt64.size = n % UInt64.size := by
  constructor
  · intro h
    have hnat := UInt64.toNat_inj.mpr ((UInt64.add_right_inj counter).mp (path_injective h))
    simpa using hnat
  · intro h
    have hnat : UInt64.ofNat m = UInt64.ofNat n := UInt64.toNat_inj.mp (by simpa using h)
    rw [pathOf, pathOf, hnat]

/-! ### The condition -/

/-- The operation returns, or there is no current result. A query is only made under a number
that no query in use has. -/
def Served (store : Store σ κ) (c : Clients σ κ) : Operation → Prop
  | .add request => Returns (store.add request) c.state
  | .removeApplication id => Returns (store.removeApplication id) c.state
  | .reset => Returns store.reset c.state
  | .query => Returns store.query c.state ∧
      ∀ n q, c.live n = some q → n % UInt64.size ≠ c.queries.length % UInt64.size
  | .destroy _ => True
  | .onQuery n operation => ∀ q, c.live n = some q →
      Returns (store.onQuery q operation) c.state ∨
        operation = .current ∧ ∃ s, (store.current q).exec c.state = (.error .noCurrentResult, s)

/-- Before the counter comes around, every number is new. -/
theorem served_query {store : Store σ κ} {c : Clients σ κ} (h : Returns store.query c.state)
    (hlt : c.queries.length < UInt64.size) : Served store c .query := by
  refine ⟨h, fun n q hn => ?_⟩
  have hnlt := Clients.lt_length_of_live hn
  rw [Nat.mod_eq_of_lt hlt, Nat.mod_eq_of_lt (Nat.lt_trans hnlt hlt)]
  exact Nat.ne_of_lt hnlt

/-- The store raises no exception but `NoCurrentResult`. -/
def RaisesNoCurrentResult (store : Store σ κ) (c : Clients σ κ) (operation : Operation) : Prop :=
  ∀ c' e, c.step store operation = some c' → c'.results = c.results ++ [.error e] →
    e = .noCurrentResult

private theorem returns_of_throws {α : Type} {m : Action σ α} {s : σ}
    (hthrows : Fallible.Throws (· ≠ .noCurrentResult) m)
    (hraises : ∀ e t, m.exec s = (.error e, t) → e = .noCurrentResult) : Returns m s := by
  cases h : m.exec s with
  | mk r t =>
    cases r with
    | error e => exact absurd (hraises e t h) (hthrows s e t h)
    | ok a => exact ⟨a, t, h⟩

/-- A store that raises `NoCurrentResult` out of `current` only serves every operation, before
the counter comes around. -/
theorem served_of_raisesInCurrent {store : Store σ κ} (hstore : store.RaisesInCurrent)
    {c : Clients σ κ} {operation : Operation} (hraises : RaisesNoCurrentResult store c operation)
    (hlt : operation = .query → c.queries.length < UInt64.size) : Served store c operation := by
  cases operation with
  | add request =>
    refine returns_of_throws (hstore.add request) fun e t h => hraises _ e rfl ?_
    rw [Clients.take_eq (Fallible.exec_bind_error h)]
  | removeApplication id =>
    refine returns_of_throws (hstore.removeApplication id) fun e t h => hraises _ e rfl ?_
    rw [Clients.take_eq (Fallible.exec_bind_error h)]
  | reset =>
    refine returns_of_throws hstore.reset fun e t h => hraises _ e rfl ?_
    rw [Clients.take_eq (Fallible.exec_bind_error h)]
  | query =>
    refine served_query (returns_of_throws hstore.query fun e t h => hraises _ e rfl ?_) (hlt rfl)
    rw [h]
    rfl
  | destroy n => trivial
  | onQuery n operation =>
    intro q hq
    have honly : ∀ e t, (store.onQuery q operation).exec c.state = (.error e, t) →
        e = .noCurrentResult := by
      intro e t h
      refine hraises _ e (Clients.step_onQuery hq) ?_
      rw [Clients.take_eq h]
    by_cases hcurrent : operation = .current
    · subst hcurrent
      cases h : (store.current q).exec c.state with
      | mk r s =>
        cases r with
        | error e =>
          have he := honly e s (Fallible.exec_bind_error h)
          exact .inr ⟨rfl, s, by rw [← he]⟩
        | ok request => exact .inl ⟨_, s, Fallible.exec_bind_ok h⟩
    · exact .inl (returns_of_throws (hstore.onQuery q operation hcurrent) honly)

/-! ### The simulation -/

/-- The service is in the state in which the store would be without it, and exactly the queries
in use have objects, at different paths. -/
structure Simulates (counter : UInt64) (r : Clients (Token σ κ) ObjectPath) (l : Clients σ κ) :
    Prop where
  store : r.state.store = l.state
  results : r.results = l.results
  queryCounter : r.state.queryCounter = counter + UInt64.ofNat l.queries.length
  length : r.queries.length = l.queries.length
  live : ∀ n, r.live n = (l.live n).map fun _ => pathOf counter n
  object : ∀ n q, l.live n = some q → r.state.queryStore (pathOf counter n) = some q
  free : ∀ p, (∀ n q, l.live n = some q → p ≠ pathOf counter n) → r.state.queryStore p = none
  distinct : ∀ m n p q, l.live m = some p → l.live n = some q →
    m % UInt64.size = n % UInt64.size → m = n

namespace Simulates

variable {counter : UInt64} {r : Clients (Token σ κ) ObjectPath} {l : Clients σ κ}

/-- A service without queries. -/
theorem start {t : Token σ κ} (h : ∀ p, t.queryStore p = none) :
    Simulates t.queryCounter (Clients.start t) (Clients.start t.store) where
  store := rfl
  results := rfl
  queryCounter := by simp [Clients.start]
  length := rfl
  live _ := rfl
  object _ _ hlive := by cases hlive
  free p _ := h p
  distinct _ _ _ _ hlive := by cases hlive

/-- A query in use is known by its path. -/
private theorem live_some (h : Simulates counter r l) {n : Nat} {q : κ} (hq : l.live n = some q) :
    r.live n = some (pathOf counter n) := by
  rw [h.live, hq, Option.map_some]

/-- An operation that leaves the queries alone. -/
theorem take (h : Simulates counter r l) {remotely : Action (Token σ κ) Returned}
    {locally : Action σ Returned} {x : Except Exception Returned} {s : σ}
    (hremotely : remotely.exec r.state = (x, idle r.state s))
    (hlocally : locally.exec l.state = (x, s)) :
    Simulates counter (r.take remotely) (l.take locally) := by
  rw [Clients.take_eq hremotely, Clients.take_eq hlocally]
  refine ⟨rfl, ?_, h.queryCounter, h.length, h.live, h.object, h.free, h.distinct⟩
  rw [h.results]

/-- A query is made, under a number that no query in use has. -/
theorem query (h : Simulates counter r l) (s : σ) (q : κ)
    (hnew : ∀ n p, l.live n = some p → n % UInt64.size ≠ l.queries.length % UInt64.size) :
    Simulates counter
      ⟨{ idle r.state s with
          queryCounter := r.state.queryCounter + 1
          queryStore := fun p =>
            if p = Token.path r.state.queryCounter then some q else r.state.queryStore p },
        r.queries ++ [some (Token.path r.state.queryCounter)], r.results ++ [.ok .nothing]⟩
      ⟨s, l.queries ++ [some q], l.results ++ [.ok .nothing]⟩ := by
  have hpath : Token.path r.state.queryCounter = pathOf counter l.queries.length := by
    rw [h.queryCounter, pathOf]
  rw [hpath]
  refine ⟨rfl, by rw [h.results], ?_, by simp [h.length], ?_, ?_, ?_, ?_⟩
  · simp [h.queryCounter, UInt64.add_assoc]
  · intro n
    rw [Clients.live_append, Clients.live_append, h.length, h.live]
    split
    next hn => rw [hn, Option.map_some]
    next => rfl
  · intro n p hp
    rw [Clients.live_append] at hp
    split at hp
    next hn =>
      cases hp
      rw [hn]
      simp
    next =>
      have hne : pathOf counter n ≠ pathOf counter l.queries.length :=
        fun heq => hnew n p hp (pathOf_eq_iff.mp heq)
      simp only [hne, if_false]
      exact h.object n p hp
  · intro p hp
    have hne : p ≠ pathOf counter l.queries.length :=
      hp _ q (by rw [Clients.live_append, if_pos rfl])
    simp only [hne, if_false]
    refine h.free p fun n p' hp' => hp n p' ?_
    rw [Clients.live_append, if_neg (Nat.ne_of_lt (Clients.lt_length_of_live hp')), hp']
  · intro m n p p' hp hp' hmod
    rw [Clients.live_append] at hp hp'
    split at hp <;> split at hp'
    next hm hn => rw [hm, hn]
    next hm _ => exact absurd (hmod.symm.trans (by rw [hm])) (hnew n p' hp')
    next _ hn => exact absurd (hmod.trans (by rw [hn])) (hnew m p hp)
    next => exact h.distinct m n p p' hp hp' hmod

/-- A query in use is destroyed. -/
theorem destroy (h : Simulates counter r l) {n : Nat} {q : κ} (hq : l.live n = some q) (s : σ) :
    Simulates counter
      ⟨{ idle r.state s with
          queryStore := fun p => if p = pathOf counter n then none else r.state.queryStore p },
        r.queries.set n none, r.results ++ [.ok .nothing]⟩
      ⟨s, l.queries.set n none, l.results ++ [.ok .nothing]⟩ := by
  refine ⟨rfl, by rw [h.results], ?_, by simp [h.length], ?_, ?_, ?_, ?_⟩
  · simp [idle, h.queryCounter]
  · intro m
    rw [Clients.live_set, Clients.live_set, h.live]
    split <;> rfl
  · intro m p hp
    rw [Clients.live_set] at hp
    split at hp
    · cases hp
    next hm =>
      have hne : pathOf counter m ≠ pathOf counter n :=
        fun heq => hm (h.distinct m n p q hp hq (pathOf_eq_iff.mp heq))
      simp only [hne, if_false]
      exact h.object m p hp
  · intro p hp
    dsimp only
    split
    · rfl
    next hne =>
      refine h.free p fun m p' hp' => ?_
      by_cases hm : m = n
      · rwa [hm]
      · exact hp m p' (by rw [Clients.live_set, if_neg hm, hp'])
  · intro m m' p p' hp hp' hmod
    rw [Clients.live_set] at hp hp'
    split at hp <;> split at hp'
    · cases hp
    · cases hp
    · cases hp'
    · exact h.distinct m m' p p' hp hp' hmod

/-- Every operation that is served goes the same way on both sides. -/
theorem step {bus : Bus} {store : Store σ κ} (h : Simulates counter r l) {operation : Operation}
    {l' : Clients σ κ} (hserved : Served store l operation)
    (hl : l.step store operation = some l') :
    ∃ r', r.step (remote bus store) operation = some r' ∧ Simulates counter r' l' := by
  cases operation with
  | add request =>
    obtain ⟨_, s, hreturns⟩ := hserved
    cases Option.some.inj hl
    refine ⟨_, rfl, h.take (x := .ok .nothing) (s := s) ?_ (Fallible.exec_bind_ok hreturns)⟩
    exact Fallible.exec_bind_ok (add_ok (h.store ▸ hreturns))
  | removeApplication id =>
    obtain ⟨_, s, hreturns⟩ := hserved
    cases Option.some.inj hl
    refine ⟨_, rfl, h.take (x := .ok .nothing) (s := s) ?_ (Fallible.exec_bind_ok hreturns)⟩
    exact Fallible.exec_bind_ok (removeApplication_ok (h.store ▸ hreturns))
  | reset =>
    obtain ⟨_, s, hreturns⟩ := hserved
    cases Option.some.inj hl
    refine ⟨_, rfl, h.take (x := .ok .nothing) (s := s) ?_ (Fallible.exec_bind_ok hreturns)⟩
    exact Fallible.exec_bind_ok (reset_ok (h.store ▸ hreturns))
  | query =>
    obtain ⟨⟨q, s, hreturns⟩, hnew⟩ := hserved
    cases Option.some.inj hl
    have hfree : r.state.queryStore (Token.path r.state.queryCounter) = none := by
      refine h.free _ fun n p hp heq => hnew n p hp ?_
      rw [h.queryCounter] at heq
      exact pathOf_eq_iff.mp heq.symm
    have hremote : (remote bus store).query.exec r.state = _ :=
      query_ok (h.store ▸ hreturns) hfree
    refine ⟨_, rfl, ?_⟩
    rw [hreturns, hremote]
    exact h.query s q hnew
  | destroy n =>
    obtain ⟨q, hq, hl'⟩ := Option.map_eq_some_iff.mp hl
    cases hl'
    refine ⟨_, Clients.step_destroy (h.live_some hq), ?_⟩
    have hremote : (remote bus store).destroy (pathOf counter n) r.state = _ :=
      destroy_of_some (h.object n q hq)
    rw [hremote, h.store]
    exact h.destroy hq _
  | onQuery n operation =>
    obtain ⟨q, hq, hl'⟩ := Option.map_eq_some_iff.mp hl
    cases hl'
    refine ⟨_, Clients.step_onQuery (h.live_some hq), ?_⟩
    rcases hserved q hq with ⟨x, s, hreturns⟩ | ⟨rfl, s, hthrows⟩
    · exact h.take (remote_onQuery (h.object n q hq) (h.store ▸ hreturns)) hreturns
    · refine h.take (remote_onQuery_noCurrentResult (h.object n q hq) (h.store ▸ hthrows)) ?_
      exact Fallible.exec_bind_error hthrows

/-- A run whose operations are all served goes the same way on both sides. -/
theorem run {bus : Bus} {store : Store σ κ} (h : Simulates counter r l)
    {operations : List Operation} {l' : Clients σ κ}
    (hserved : Transition.Meets (Clients.step store) (Served store) l operations)
    (hl : Transition.run (Clients.step store) l operations = some l') :
    ∃ r', Transition.run (Clients.step (remote bus store)) r operations = some r' ∧
      Simulates counter r' l' := by
  have hstep : ∀ r l operation l', Simulates counter r l → Served store l operation →
      Clients.step store l operation = some l' →
      ∃ r', Clients.step (remote bus store) r operation = some r' ∧ Simulates counter r' l' :=
    fun _ _ _ _ hsim hserved hl => hsim.step hserved hl
  exact Transition.simulation_run hstep h hserved hl

end Simulates

/-! ### Runs -/

/-- Clients of the resolved store see what clients of the store itself see, and leave the same
store behind. -/
def Refines (bus : Bus) (store : Store σ κ) (t : Token σ κ) (operations : List Operation) : Prop :=
  ∀ l, Transition.run (Clients.step store) (Clients.start t.store) operations = some l →
    ∃ r, Transition.run (Clients.step (remote bus store)) (Clients.start t) operations = some r ∧
      r.results = l.results ∧ r.state.store = l.state

/-- A store that is exposed without queries is refined in every run whose operations are all
served. -/
theorem refines_run {bus : Bus} {store : Store σ κ} {t : Token σ κ} {operations : List Operation}
    (hempty : ∀ p, t.queryStore p = none)
    (hserved : Transition.Meets (Clients.step store) (Served store) (Clients.start t.store)
      operations) : Refines bus store t operations := by
  intro l hl
  obtain ⟨r, hr, hsim⟩ := (Simulates.start hempty).run hserved hl
  exact ⟨r, hr, hsim.results, hsim.store⟩

/-- A store that raises `NoCurrentResult` out of `current` only is refined in every run in which
nothing else is raised, before the counter comes around. -/
theorem refines_of_raisesInCurrent {bus : Bus} {store : Store σ κ} {t : Token σ κ}
    {operations : List Operation} (hstore : store.RaisesInCurrent)
    (hempty : ∀ p, t.queryStore p = none)
    (hraises : Transition.Meets (Clients.step store)
      (fun c operation => RaisesNoCurrentResult store c operation ∧
        (operation = .query → c.queries.length < UInt64.size))
      (Clients.start t.store) operations) : Refines bus store t operations := by
  intro l hl
  have hserved : Transition.Meets (Clients.step store) (Served store) (Clients.start t.store)
      operations := hraises.mono fun _ _ h => served_of_raisesInCurrent hstore h.1 h.2
  obtain ⟨r, hr, hsim⟩ := (Simulates.start hempty).run hserved hl
  exact ⟨r, hr, hsim.results, hsim.store⟩

/-! ### A store in memory -/

/-- A store whose queries always show its oldest request. -/
def inMemory : Store (List Request) PUnit where
  reset := set ([] : List Request)
  add request := modify fun requests => requests ++ [request]
  removeApplication id := modify (List.filter fun request => request.origin ≠ id)
  query := return ⟨⟩
  destroy _ requests := requests
  status _ := do return if (← get).isEmpty then .eor else .hasMoreResults
  forApplicationId _ _ := return
  forFeature _ _ := return
  forInterval _ _ _ := return
  forAnswer _ _ := return
  all _ := return
  execute _ := return
  next _ := return
  erase _ := do
    match ← get with
    | [] => throw .noCurrentResult
    | _ :: rest => set rest
  current _ := do
    match ← get with
    | [] => throw .noCurrentResult
    | request :: _ => return request

/-- A bus on which calls time out. -/
def sessionBus : Bus where
  print _ what := what
  noReply := .runtimeError "Did not receive a reply."
  unknownObject := .error .noCurrentRequest "No such object."

/-- The store in memory is exposed. -/
def exposedInMemory : Token (List Request) PUnit := ⟨[], 0, fun _ => none, []⟩

/-- A request from before the epoch. -/
def early : Request := ⟨"app", ⟨9223372036854775808⟩, -1, .granted⟩

/-- Two clients use a query each. -/
def twoClients : List Operation :=
  [.query, .onQuery 0 .current, .query, .add early, .onQuery 1 .current, .onQuery 1 .status,
    .destroy 1, .onQuery 0 .erase, .onQuery 0 .status]

/-- Two clients see what they would see at the store itself. -/
theorem refines_run_twoClients :
    ∃ r, Transition.run (Clients.step (remote sessionBus inMemory))
        (Clients.start exposedInMemory) twoClients = some r ∧
      r.results = [.ok .nothing, .error .noCurrentResult, .ok .nothing, .ok .nothing,
        .ok (.request early), .ok (.status .hasMoreResults), .ok .nothing, .ok .nothing,
        .ok (.status .eor)] ∧
      r.state.store = [] := by
  have hserved : Transition.Meets (Clients.step inMemory) (Served inMemory)
      (Clients.start exposedInMemory.store) twoClients := by
    refine .cons (served_query ⟨_, _, rfl⟩ (by decide)) rfl ?_
    refine .cons (fun _ _ => .inr ⟨rfl, _, rfl⟩) rfl ?_
    refine .cons (served_query ⟨_, _, rfl⟩ (by decide)) rfl ?_
    refine .cons ⟨_, _, rfl⟩ rfl ?_
    refine .cons (fun _ _ => .inl ⟨_, _, rfl⟩) rfl ?_
    refine .cons (fun _ _ => .inl ⟨_, _, rfl⟩) rfl ?_
    refine .cons trivial rfl ?_
    refine .cons (fun _ _ => .inl ⟨_, _, rfl⟩) rfl ?_
    exact .cons (fun _ _ => .inl ⟨_, _, rfl⟩) rfl trivial
  exact refines_run (fun _ => rfl) hserved _ rfl

/-- A `NoCurrentResult` raised by `erase` gets lost. -/
theorem not_refines_erase :
    ¬ (∀ operations : List Operation,
      Transition.Meets (Clients.step inMemory) (RaisesNoCurrentResult inMemory)
        (Clients.start exposedInMemory.store) operations →
      Refines sessionBus inMemory exposedInMemory operations) := by
  intro h
  have hmeets : Transition.Meets (Clients.step inMemory) (RaisesNoCurrentResult inMemory)
      (Clients.start exposedInMemory.store) [.query, .onQuery 0 .erase] := by
    refine .cons (fun c e hc he => ?_) rfl (.cons (fun c e hc he => ?_) rfl trivial)
    · cases Option.some.inj hc
      cases he
    · cases Option.some.inj hc
      cases he
      rfl
  obtain ⟨r, hr, hresults, -⟩ := h _ hmeets _ rfl
  cases Option.some.inj hr
  cases hresults

end TrustStore.Dbus.Resolve
