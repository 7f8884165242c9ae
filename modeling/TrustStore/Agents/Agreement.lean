import Mathlib.Logic.Relation
import TrustStore.Agents.Cached
import TrustStore.Core.Clients

/-!
# Two implementations of one protocol

`CachedAgent` and `process_trust_request` were written separately, and look for an answer, ask
the agent and add its answer in the same order. Here a store, an agent and a reporter each have
a state of their own, and what the agent was asked is written down.
-/

namespace TrustStore

open TrustStore.Base

variable {σ τ ρ κ : Type}

/-! ### Reading a store -/

namespace Store

/-- A query is made, dropped, or used otherwise than to erase its current request. -/
def Reads (store : Store σ κ) (s t : σ) : Prop :=
  t = (store.query.exec s).2 ∨ (∃ q, t = store.destroy q s) ∨
    ∃ q operation, operation ≠ .erase ∧ t = ((store.onQuery q operation).exec s).2

/-- The state is one that queries alone lead to, without adding or removing any request. -/
def Unaltered (store : Store σ κ) : σ → σ → Prop := Relation.ReflTransGen store.Reads

/-- A query is limited to an application and a feature, and executed: its status. -/
def statusFor (store : Store σ κ) (query : κ) (applicationId : String) (feature : Feature) :
    Action σ Status := do
  store.forApplicationId query applicationId
  store.forFeature query feature
  store.execute query
  store.status query

/-- A new query for an application and a feature ends up with a status. -/
def QueryHas (store : Store σ κ) (applicationId : String) (feature : Feature) (s : σ)
    (status : Status) : Prop :=
  ∃ q t u, store.query.exec s = (.ok q, t) ∧
    (store.statusFor q applicationId feature).exec t = (.ok status, u)

variable {store : Store σ κ} {s t u : σ} {q : κ} {id : String} {feature : Feature}

private theorem unaltered_query (store : Store σ κ) (s : σ) :
    store.Unaltered s (store.query.exec s).2 :=
  .single (.inl rfl)

private theorem unaltered_destroy (q : κ) (s : σ) : store.Unaltered s (store.destroy q s) :=
  .single (.inr (.inl ⟨q, rfl⟩))

private theorem keeps_onQuery {α : Type} {m : Action σ α} (q : κ) (operation : QueryOperation)
    (hne : operation ≠ .erase) (h : ∀ s, ((store.onQuery q operation).exec s).2 = (m.exec s).2) :
    Fallible.Keeps store.Unaltered m :=
  fun s => .single (.inr (.inr ⟨q, operation, hne, (h s).symm⟩))

private theorem keeps_bind {α β : Type} {m : Action σ α} {f : α → Action σ β}
    (hm : Fallible.Keeps store.Unaltered m) (hf : ∀ a, Fallible.Keeps store.Unaltered (f a)) :
    Fallible.Keeps store.Unaltered (m >>= f) :=
  Fallible.Keeps.bind (R := store.Unaltered) Relation.ReflTransGen.trans hm hf

private theorem keeps_pure {α : Type} (a : α) :
    Fallible.Keeps store.Unaltered (pure a : Action σ α) :=
  Fallible.Keeps.pure (fun _ => .refl) a

private theorem keeps_statusFor (q : κ) (id : String) (feature : Feature) :
    Fallible.Keeps store.Unaltered (store.statusFor q id feature) := by
  refine keeps_bind (keeps_onQuery q (.forApplicationId id) (by simp)
    (Fallible.exec_bind_pure_snd _ _)) fun _ => ?_
  refine keeps_bind (keeps_onQuery q (.forFeature feature) (by simp)
    (Fallible.exec_bind_pure_snd _ _)) fun _ => ?_
  refine keeps_bind (keeps_onQuery q .execute (by simp)
    (Fallible.exec_bind_pure_snd _ _)) fun _ => ?_
  exact keeps_onQuery q .status (by simp) (Fallible.exec_bind_pure_snd _ _)

/-- A lookup takes the current request, if the query has a result. -/
theorem lookup_eq (store : Store σ κ) (q : κ) (id : String) (feature : Feature) :
    store.lookup q id feature = do
      if (← store.statusFor q id feature) = .hasMoreResults then
        return some (← store.current q)
      return none := by
  simp only [lookup, statusFor, bind_assoc]

/-- A lookup leaves the store unaltered. -/
theorem keeps_lookup (store : Store σ κ) (q : κ) (id : String) (feature : Feature) :
    Fallible.Keeps store.Unaltered (store.lookup q id feature) := by
  rw [lookup_eq]
  refine keeps_bind (keeps_statusFor q id feature) fun status => ?_
  split
  · refine keeps_bind (keeps_onQuery q .current (by simp)
      (Fallible.exec_bind_pure_snd _ _)) fun _ => ?_
    exact keeps_pure _
  · exact keeps_pure _

/-- Without a result, a lookup finds nothing. -/
theorem lookup_of_status {status : Status} (h : (store.statusFor q id feature).exec t =
    (.ok status, u)) (hstatus : status ≠ .hasMoreResults) :
    (store.lookup q id feature).exec t = (.ok none, u) := by
  rw [lookup_eq, Fallible.exec_bind_ok h, if_neg hstatus]
  rfl

/-- With a result, a lookup ends as taking the current request does. -/
theorem lookup_of_hasMoreResults (h : (store.statusFor q id feature).exec t =
    (.ok .hasMoreResults, u)) :
    (store.lookup q id feature).exec t = (some <$> store.current q).exec u := by
  rw [lookup_eq, Fallible.exec_bind_ok h, if_pos rfl, map_eq_pure_bind]

/-- A query that is made, looked up and dropped leaves the store unaltered. -/
theorem unaltered_of_lookup {r : Except Exception (Option Request)} {v : σ}
    (hquery : store.query.exec s = (.ok q, t))
    (hlookup : (store.lookup q id feature).exec t = (r, v)) :
    store.Unaltered s (store.destroy q v) := by
  have hmade := unaltered_query store s
  have hlooked := keeps_lookup store q id feature t
  rw [hquery] at hmade
  rw [hlookup] at hlooked
  exact (hmade.trans hlooked).trans (unaltered_destroy q v)

/-- A lookup found what the query has for the current request still. -/
theorem current_of_lookup (hcurrent : ∀ q s, ((store.current q).exec s).2 = s)
    {request : Request} (h : (store.lookup q id feature).exec t = (.ok (some request), u)) :
    (store.current q).exec u = (.ok request, u) := by
  rw [lookup_eq] at h
  obtain ⟨status, v, -, hrest⟩ := Fallible.exec_bind_eq_ok h
  split at hrest
  · obtain ⟨request', w, hv, hreturn⟩ := Fallible.exec_bind_eq_ok hrest
    cases hreturn
    have hkept := hcurrent q v
    rw [hv] at hkept
    cases hkept
    exact hv
  · cases hrest

/-- A lookup that finds nothing was one of a query without a result. -/
theorem not_queryHas_of_none (hquery : store.query.exec s = (.ok q, t))
    (hlookup : (store.lookup q id feature).exec t = (.ok none, u)) :
    ¬ store.QueryHas id feature s .hasMoreResults := by
  rintro ⟨q', t', v, hmade, hstatus⟩
  cases hquery.symm.trans hmade
  have hcurrent := lookup_of_hasMoreResults hstatus
  rw [hlookup, Fallible.exec_map] at hcurrent
  have hresult := congrArg Prod.fst hcurrent
  cases hread : ((store.current q).exec v).1 with
  | error e =>
    rw [hread] at hresult
    cases hresult
  | ok request =>
    rw [hread] at hresult
    cases hresult

end Store

/-! ### Store, agent and reporter -/

/-- The states of a store, an agent and a reporter. -/
structure Parties (σ τ ρ : Type) where
  store : σ
  agent : τ
  reporter : ρ
  /-- what the agent was asked, newest last -/
  asked : List RequestParameters

namespace Parties

/-- The agent, where it is written down what it is asked. -/
def asking (agent : Agent τ) : Agent (Parties σ τ ρ) := fun params => do
  modify fun p => { p with asked := p.asked ++ [params] }
  Fallible.zoom Parties.agent (fun p a => { p with agent := a }) (agent params)

/-- The store among the parties. -/
def storing (store : Store σ κ) : Store (Parties σ τ ρ) κ :=
  store.zoom Parties.store fun p s => { p with store := s }

/-- The reporter among the parties. -/
def reporting (reporter : CachedAgent.Reporter ρ) : CachedAgent.Reporter (Parties σ τ ρ) where
  reportCachedAnswerFound params request :=
    Fallible.zoom Parties.reporter (fun p r => { p with reporter := r })
      (reporter.reportCachedAnswerFound params request)
  reportUserPromptedForTrust params answer :=
    Fallible.zoom Parties.reporter (fun p r => { p with reporter := r })
      (reporter.reportUserPromptedForTrust params answer)

/-- The request goes to a cached agent. -/
def throughCachedAgent (store : Store σ κ) (agent : Agent τ) (reporter : CachedAgent.Reporter ρ)
    (now : Timestamp) : Agent (Parties σ τ ρ) :=
  CachedAgent.authenticateRequestWithParameters (asking agent) (storing store)
    (reporting reporter) (pure now)

/-- The request is processed without one. -/
def throughProcessTrustRequest (store : Store σ κ) (agent : Agent τ) (now : Timestamp) :
    Agent (Parties σ τ ρ) := fun params =>
  processTrustRequest
    { agent := some (asking agent)
      store := some (storing store)
      applicationUid := params.application.uid
      applicationPid := params.application.pid
      applicationId := params.application.id
      feature := params.feature
      description := params.description
      now := pure now }

/-- The protocol, for a request that takes the parties from one state to another: no alteration
of the store without an answer of the agent, and no question to the agent but one for the
request itself, where the store has no result. -/
structure Follows (store : Store σ κ) (agent : Agent τ) (params : RequestParameters)
    (p p' : Parties σ τ ρ) : Prop where
  agentThrows : ∀ e a, (agent params).exec p.agent = (.error e, a) →
    store.Unaltered p.store p'.store
  hasResult : store.QueryHas params.application.id params.feature p.store .hasMoreResults →
    p'.asked = p.asked ∧ p'.agent = p.agent ∧ store.Unaltered p.store p'.store
  hasNone : ∀ status, store.QueryHas params.application.id params.feature p.store status →
    status ≠ .hasMoreResults →
    p'.asked = p.asked ++ [params] ∧ p'.agent = ((agent params).exec p.agent).2

/-- How a request ends, by what comes of the calls on the way. -/
inductive Ends (store : Store σ κ) (agent : Agent τ) (now : Timestamp)
    (params : RequestParameters) (p : Parties σ τ ρ) :
    Except Exception Answer × Parties σ τ ρ → Prop
  | noQuery {e s} (hquery : store.query.exec p.store = (.error e, s)) :
      Ends store agent now params p (.error e, { p with store := s })
  | lookupThrows {q s e t} (hquery : store.query.exec p.store = (.ok q, s))
      (hlookup : (store.lookup q params.application.id params.feature).exec s = (.error e, t)) :
      Ends store agent now params p (.error e, { p with store := store.destroy q t })
  | found {q s request t} (hquery : store.query.exec p.store = (.ok q, s))
      (hlookup : (store.lookup q params.application.id params.feature).exec s =
        (.ok (some request), t)) :
      Ends store agent now params p (.ok request.answer, { p with store := store.destroy q t })
  | agentThrows {q s t e a} (hquery : store.query.exec p.store = (.ok q, s))
      (hlookup : (store.lookup q params.application.id params.feature).exec s = (.ok none, t))
      (hagent : (agent params).exec p.agent = (.error e, a)) :
      Ends store agent now params p (.error e, { p with
        store := store.destroy q t
        agent := a
        asked := p.asked ++ [params] })
  | answered {q s t answer a r u} (hquery : store.query.exec p.store = (.ok q, s))
      (hlookup : (store.lookup q params.application.id params.feature).exec s = (.ok none, t))
      (hagent : (agent params).exec p.agent = (.ok answer, a))
      (hadd : (store.add ⟨params.application.id, params.feature, now, answer⟩).exec t = (r, u)) :
      Ends store agent now params p (r.map fun _ => answer, { p with
        store := store.destroy q u
        agent := a
        asked := p.asked ++ [params] })

variable {store : Store σ κ} {agent : Agent τ} {reporter : CachedAgent.Reporter ρ}
  {now : Timestamp} {params : RequestParameters} {p : Parties σ τ ρ}

private theorem storing_query {r : Except Exception κ} {s : σ}
    (h : store.query.exec p.store = (r, s)) :
    (storing store).query.exec p = (r, { p with store := s }) := by
  rw [storing, Store.zoom, Fallible.exec_zoom, h]

private theorem storing_lookup {q : κ} {r : Except Exception (Option Request)} {s : σ}
    (h : (store.lookup q params.application.id params.feature).exec p.store = (r, s)) :
    ((storing store).lookup q params.application.id params.feature).exec p =
      (r, { p with store := s }) := by
  have hzoom : (storing store : Store (Parties σ τ ρ) κ).lookup q params.application.id
      params.feature = Fallible.zoom Parties.store (fun p s => { p with store := s })
        (store.lookup q params.application.id params.feature) := by
    rw [storing]
    refine store.lookup_zoom ?_ ?_ ?_ q _ _ <;> intros <;> rfl
  rw [hzoom, Fallible.exec_zoom, h]

private theorem storing_current {q : κ} {r : Except Exception Request} {s : σ}
    (h : (store.current q).exec p.store = (r, s)) :
    ((storing store).current q).exec p = (r, { p with store := s }) := by
  rw [storing, Store.zoom, Fallible.exec_zoom, h]

private theorem storing_add {request : Request} {r : Except Exception Unit} {s : σ}
    (h : (store.add request).exec p.store = (r, s)) :
    ((storing store).add request).exec p = (r, { p with store := s }) := by
  rw [storing, Store.zoom, Fallible.exec_zoom, h]

private theorem asking_exec {r : Except Exception Answer} {a : τ}
    (h : (agent params).exec p.agent = (r, a)) :
    (asking agent params).exec p =
      (r, { p with agent := a, asked := p.asked ++ [params] }) := by
  rw [asking, Fallible.exec_bind_ok (Fallible.exec_modify _ _), Fallible.exec_zoom, h]

/-- `process_trust_request` ends so. -/
theorem throughProcessTrustRequest_ends (store : Store σ κ) (agent : Agent τ) (now : Timestamp)
    (params : RequestParameters) (p : Parties σ τ ρ) :
    Ends store agent now params p
      ((throughProcessTrustRequest store agent now params).exec p) := by
  simp only [throughProcessTrustRequest, processTrustRequest]
  rcases hquery : store.query.exec p.store with ⟨e | q, s⟩
  · rw [Fallible.exec_bind_error (storing_query hquery)]
    exact .noQuery hquery
  · rw [Fallible.exec_bind_ok (storing_query hquery), Fallible.exec_guarded]
    rcases hlookup : (store.lookup q params.application.id params.feature).exec s with
      ⟨e | _ | request, t⟩
    · rw [Fallible.exec_bind_error (storing_lookup hlookup)]
      exact .lookupThrows hquery hlookup
    · rw [Fallible.exec_bind_ok (storing_lookup hlookup)]
      dsimp only
      rcases hagent : (agent params).exec p.agent with ⟨e | answer, a⟩
      · rw [Fallible.exec_bind_error (asking_exec (p := { p with store := t }) hagent)]
        exact .agentThrows hquery hlookup hagent
      · rw [Fallible.exec_bind_ok (asking_exec (p := { p with store := t }) hagent), pure_bind]
        rcases hadd : (store.add ⟨params.application.id, params.feature, now, answer⟩).exec t with
          ⟨e | _, u⟩
        · rw [Fallible.exec_bind_error (storing_add hadd)]
          exact .answered hquery hlookup hagent hadd
        · rw [Fallible.exec_bind_ok (storing_add hadd)]
          exact .answered hquery hlookup hagent hadd
    · rw [Fallible.exec_bind_ok (storing_lookup hlookup)]
      exact .found hquery hlookup

private theorem reporting_exec {m : Action ρ Unit} (h : ∀ r, Fallible.Returns m r)
    (p : Parties σ τ ρ) : ∃ r, (Fallible.zoom Parties.reporter
      (fun p r => { p with reporter := r }) m : Action (Parties σ τ ρ) Unit).exec p =
        (.ok ⟨⟩, { p with reporter := r }) := by
  obtain ⟨_, r, hm⟩ := h p.reporter
  exact ⟨r, by rw [Fallible.exec_zoom, hm]⟩

/-- A cached agent ends in the same way, up to the reporter. -/
theorem Ends.throughCachedAgent {result : Except Exception Answer × Parties σ τ ρ}
    (hcurrent : ∀ q s, ((store.current q).exec s).2 = s)
    (hfound : ∀ params request r,
      Fallible.Returns (reporter.reportCachedAnswerFound params request) r)
    (hprompted : ∀ params answer r,
      Fallible.Returns (reporter.reportUserPromptedForTrust params answer) r)
    (h : Ends store agent now params p result) :
    ∃ r, (throughCachedAgent store agent reporter now params).exec p =
      (result.1, { result.2 with reporter := r }) := by
  simp only [Parties.throughCachedAgent, CachedAgent.authenticateRequestWithParameters]
  cases h with
  | noQuery hquery =>
    rw [Fallible.exec_bind_error (storing_query hquery)]
    exact ⟨p.reporter, rfl⟩
  | lookupThrows hquery hlookup =>
    rw [Fallible.exec_bind_ok (storing_query hquery), Fallible.exec_guarded,
      Fallible.exec_bind_error (storing_lookup hlookup)]
    exact ⟨p.reporter, rfl⟩
  | @found q _ request t hquery hlookup =>
    rw [Fallible.exec_bind_ok (storing_query hquery), Fallible.exec_guarded,
      Fallible.exec_bind_ok (storing_lookup hlookup)]
    dsimp only
    obtain ⟨r, hreport⟩ := reporting_exec (hfound params request) { p with store := t }
    rw [reporting, Fallible.exec_bind_ok hreport,
      Fallible.exec_bind_ok (storing_current (Store.current_of_lookup hcurrent hlookup))]
    exact ⟨r, rfl⟩
  | @agentThrows q _ t _ _ hquery hlookup hagent =>
    rw [Fallible.exec_bind_ok (storing_query hquery), Fallible.exec_guarded,
      Fallible.exec_bind_ok (storing_lookup hlookup)]
    dsimp only
    rw [Fallible.exec_bind_error (asking_exec (p := { p with store := t }) hagent)]
    exact ⟨p.reporter, rfl⟩
  | @answered q _ t answer a r _ hquery hlookup hagent hadd =>
    rw [Fallible.exec_bind_ok (storing_query hquery), Fallible.exec_guarded,
      Fallible.exec_bind_ok (storing_lookup hlookup)]
    dsimp only
    rw [Fallible.exec_bind_ok (asking_exec (p := { p with store := t }) hagent)]
    obtain ⟨r', hreport⟩ := reporting_exec (hprompted params answer)
      { p with store := t, agent := a, asked := p.asked ++ [params] }
    rw [reporting, Fallible.exec_bind_ok hreport, pure_bind]
    cases r with
    | error e =>
      rw [Fallible.exec_bind_error (storing_add hadd)]
      exact ⟨r', rfl⟩
    | ok _ =>
      rw [Fallible.exec_bind_ok (storing_add hadd)]
      exact ⟨r', rfl⟩

/-- However a request ends, the protocol was followed. -/
theorem Ends.follows {result : Except Exception Answer × Parties σ τ ρ}
    (h : Ends store agent now params p result) : Follows store agent params p result.2 := by
  cases h with
  | @noQuery e s hquery =>
    have hnone : ∀ status,
        ¬ store.QueryHas params.application.id params.feature p.store status := by
      rintro status ⟨q, t, u, hmade, -⟩
      cases hquery.symm.trans hmade
    have hmade : store.Unaltered p.store s := by
      have hkept := Store.unaltered_query store p.store
      rwa [hquery] at hkept
    exact ⟨fun _ _ _ => hmade, fun hhas => absurd hhas (hnone _),
      fun status hhas => absurd hhas (hnone status)⟩
  | @lookupThrows q s e t hquery hlookup =>
    have hkept := Store.unaltered_of_lookup hquery hlookup
    refine ⟨fun _ _ _ => hkept, fun _ => ⟨rfl, rfl, hkept⟩, ?_⟩
    rintro status ⟨q', t', u, hmade, hstatus⟩ hne
    cases hquery.symm.trans hmade
    cases hlookup.symm.trans (Store.lookup_of_status hstatus hne)
  | @found q s request t hquery hlookup =>
    have hkept := Store.unaltered_of_lookup hquery hlookup
    refine ⟨fun _ _ _ => hkept, fun _ => ⟨rfl, rfl, hkept⟩, ?_⟩
    rintro status ⟨q', t', u, hmade, hstatus⟩ hne
    cases hquery.symm.trans hmade
    cases hlookup.symm.trans (Store.lookup_of_status hstatus hne)
  | @agentThrows q s t e a hquery hlookup hagent =>
    have hkept := Store.unaltered_of_lookup hquery hlookup
    refine ⟨fun _ _ _ => hkept, fun hhas => absurd hhas (Store.not_queryHas_of_none hquery hlookup),
      fun _ _ _ => ⟨rfl, by rw [hagent]⟩⟩
  | @answered q s t answer a r u hquery hlookup hagent hadd =>
    refine ⟨fun e a' hthrows => ?_,
      fun hhas => absurd hhas (Store.not_queryHas_of_none hquery hlookup),
      fun _ _ _ => ⟨rfl, by rw [hagent]⟩⟩
    cases hagent.symm.trans hthrows

/-- Where reading the current request changes nothing and the reporter returns, the cached agent
and `process_trust_request` end with the same outcome and leave store and agent in the same state,
and both follow the protocol. -/
theorem agree (store : Store σ κ) (hcurrent : ∀ q s, ((store.current q).exec s).2 = s)
    (agent : Agent τ) (reporter : CachedAgent.Reporter ρ)
    (hfound : ∀ params request r,
      Fallible.Returns (reporter.reportCachedAnswerFound params request) r)
    (hprompted : ∀ params answer r,
      Fallible.Returns (reporter.reportUserPromptedForTrust params answer) r)
    (now : Timestamp) (params : RequestParameters) (p : Parties σ τ ρ) :
    (∃ r, (throughCachedAgent store agent reporter now params).exec p =
      (((throughProcessTrustRequest store agent now params).exec p).1,
        { ((throughProcessTrustRequest store agent now params).exec p).2 with reporter := r })) ∧
    Follows store agent params p
      ((throughCachedAgent store agent reporter now params).exec p).2 ∧
    Follows store agent params p
      ((throughProcessTrustRequest store agent now params).exec p).2 := by
  have hends := throughProcessTrustRequest_ends store agent now params p
  obtain ⟨r, hcached⟩ := hends.throughCachedAgent hcurrent hfound hprompted
  refine ⟨⟨r, hcached⟩, ?_, hends.follows⟩
  obtain ⟨hthrows, hresult, hnone⟩ := hends.follows
  rw [hcached]
  exact ⟨hthrows, hresult, hnone⟩

/-- A store that keeps the last request it was given. -/
def lastRequest : Store (Option Request) PUnit where
  reset := set (none : Option Request)
  add request := set (some request)
  removeApplication _ := set (none : Option Request)
  query := return ⟨⟩
  destroy _ s := s
  status _ := do return if (← get).isSome then .hasMoreResults else .eor
  forApplicationId _ _ := return
  forFeature _ _ := return
  forInterval _ _ _ := return
  forAnswer _ _ := return
  all _ := return
  execute _ := return
  next _ := return
  erase _ := set (none : Option Request)
  current _ := do
    match ← get with
    | some request => return request
    | none => throw .noCurrentResult

private theorem lastRequest_current (q : PUnit) (s : Option Request) :
    ((lastRequest.current q).exec s).2 = s := by
  cases s <;> rfl

/-- An agent that denies. -/
def denying : Agent PUnit := fun _ => return .denied

/-- A request for the microphone. -/
def microphone : RequestParameters := ⟨⟨⟨1000⟩, ⟨42⟩, "recorder"⟩, ⟨1⟩, "Record?"⟩

/-- Nothing is asked or stored yet. -/
def unasked : Parties (Option Request) PUnit Unit := ⟨none, ⟨⟩, (), []⟩

/-- Asked through the cached agent, the agent denies the request, and both ways agree. -/
theorem agree_microphone :
    ((throughCachedAgent lastRequest denying .silent 5 microphone).exec unasked).1 = .ok .denied ∧
    ∃ r, (throughCachedAgent lastRequest denying .silent 5 microphone).exec unasked =
      (((throughProcessTrustRequest lastRequest denying 5 microphone).exec unasked).1,
        { ((throughProcessTrustRequest lastRequest denying 5 microphone).exec unasked).2 with
          reporter := r }) :=
  have hfound : ∀ (params : RequestParameters) (request : Request) (r : Unit),
      Fallible.Returns (CachedAgent.Reporter.silent.reportCachedAnswerFound params request) r :=
    fun _ _ r => ⟨_, r, rfl⟩
  have hprompted : ∀ (params : RequestParameters) (answer : Answer) (r : Unit),
      Fallible.Returns (CachedAgent.Reporter.silent.reportUserPromptedForTrust params answer) r :=
    fun _ _ r => ⟨_, r, rfl⟩
  ⟨rfl, (agree lastRequest lastRequest_current denying .silent hfound hprompted 5 microphone
    unasked).1⟩

end Parties
end TrustStore
