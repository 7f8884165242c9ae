import TrustStore.Daemon.Skeleton
import TrustStore.Sqlite.Store

/-!
# Requests of other users

The daemon creates a `PrivilegeEscalationPreventionAgent`, but hands the agent behind it to the
remote agent. To see what a request of another user reaches, the store and the local agent
are traced: every operation on them leaves a note.
-/

namespace TrustStore.Daemon.PrivilegeEscalation

open TrustStore.Base

variable {σ κ : Type}

/-- What a request may reach. -/
inductive Touch where
  | store
  | localAgent
  deriving DecidableEq

/-- A state with notes of what was reached, newest last. -/
structure Traced (σ : Type) where
  state : σ
  touches : List Touch

/-- A computation that nobody takes note of. -/
def within {α : Type} (m : Action σ α) : Action (Traced σ) α :=
  Fallible.zoom Traced.state (fun t s => { t with state := s }) m

/-- A computation that is noted before it runs. -/
def noting {α : Type} (touch : Touch) (m : Action σ α) : Action (Traced σ) α := do
  modify fun t => { t with touches := t.touches ++ [touch] }
  within m

/-- The local agent, noting whenever it is asked. -/
def tracedAgent (agent : Agent σ) : Agent (Traced σ) := fun params =>
  noting .localAgent (agent params)

/-- The store, noting every operation. -/
def tracedStore (store : Store σ κ) : Store (Traced σ) κ where
  reset := noting .store store.reset
  add request := noting .store (store.add request)
  removeApplication id := noting .store (store.removeApplication id)
  query := noting .store store.query
  destroy q t := { t with state := store.destroy q t.state }
  status q := noting .store (store.status q)
  forApplicationId q id := noting .store (store.forApplicationId q id)
  forFeature q feature := noting .store (store.forFeature q feature)
  forInterval q first last := noting .store (store.forInterval q first last)
  forAnswer q answer := noting .store (store.forAnswer q answer)
  all q := noting .store (store.all q)
  execute q := noting .store (store.execute q)
  next q := noting .store (store.next q)
  erase q := noting .store (store.erase q)
  current q := noting .store (store.current q)

/-- The environment with a traced store. -/
def tracedEnvironment (env : Environment σ κ) : Environment (Traced σ) κ where
  uid := env.uid
  createDefaultStore name := (env.createDefaultStore name).map tracedStore
  connect := env.connect
  bus := env.bus
  useService := env.useService
  addService := env.addService
  reporter :=
    { reportCachedAnswerFound := fun params request =>
        within (env.reporter.reportCachedAnswerFound params request)
      reportUserPromptedForTrust := fun params answer =>
        within (env.reporter.reportUserPromptedForTrust params answer) }
  now := within env.now

/-- The factories, with traced agents. -/
def tracedFactories (factories : String → Option (LocalAgentFactory σ)) :
    String → Option (LocalAgentFactory (Traced σ)) := fun name =>
  (factories name).map fun factory serviceName dict => (factory serviceName dict).map tracedAgent

/-- The request ends with the error for privilege escalation, without reaching the store or the
local agent. -/
def Repelled (agent : Agent (Traced σ)) (params : RequestParameters) (t : Traced σ) : Prop :=
  (agent params).exec t = (.error .privilegeEscalation, t)

/-! ### Notes are kept -/

/-- Notes are only ever added. -/
def Noted (t u : Traced σ) : Prop := t.touches.length ≤ u.touches.length

private theorem noted_refl (t : Traced σ) : Noted t t := Nat.le_refl _

private theorem noted_trans {t u v : Traced σ} : Noted t u → Noted u v → Noted t v :=
  Nat.le_trans

private theorem keeps_within {α : Type} (m : Action σ α) : Fallible.Keeps Noted (within m) :=
  fun _ => Nat.le_refl _

private theorem noting_exec {α : Type} (touch : Touch) (m : Action σ α) (t : Traced σ) :
    (noting touch m).exec t =
      ((m.exec t.state).1, ⟨(m.exec t.state).2, t.touches ++ [touch]⟩) := by
  rw [noting, Fallible.exec_bind_ok (Fallible.exec_modify _ t)]
  rfl

private theorem keeps_noting {α : Type} (touch : Touch) (m : Action σ α) :
    Fallible.Keeps Noted (noting touch m) := by
  intro t
  rw [noting_exec, Noted, List.length_append]
  exact Nat.le_add_right _ _

private theorem keeps_pure {α : Type} (a : α) :
    Fallible.Keeps Noted (pure a : Action (Traced σ) α) :=
  Fallible.Keeps.pure noted_refl a

private theorem keeps_bind {α β : Type} {m : Action (Traced σ) α} {f : α → Action (Traced σ) β}
    (hm : Fallible.Keeps Noted m) (hf : ∀ a, Fallible.Keeps Noted (f a)) :
    Fallible.Keeps Noted (m >>= f) :=
  Fallible.Keeps.bind (R := Noted) noted_trans hm hf

private theorem keeps_lookup (store : Store σ κ) (q : κ) (id : String) (feature : Feature) :
    Fallible.Keeps Noted ((tracedStore store).lookup q id feature) := by
  refine keeps_bind (keeps_noting _ _) fun _ => ?_
  refine keeps_bind (keeps_noting _ _) fun _ => ?_
  refine keeps_bind (keeps_noting _ _) fun _ => ?_
  refine keeps_bind (keeps_noting _ _) fun status => ?_
  split
  · exact keeps_bind (keeps_noting _ _) fun _ => keeps_pure _
  · exact keeps_pure _

/-- A cached agent always reaches its store. -/
theorem cached_touches (agent : Agent σ) (store : Store σ κ) (env : Environment σ κ)
    (params : RequestParameters) (t : Traced σ) :
    t.touches.length < ((CachedAgent.authenticateRequestWithParameters (tracedAgent agent)
      (tracedStore store) (tracedEnvironment env).reporter (tracedEnvironment env).now
        params).exec t).2.touches.length := by
  have hquery : (tracedStore store).query.exec t = _ := noting_exec .store store.query t
  rw [CachedAgent.authenticateRequestWithParameters]
  cases hr : (store.query.exec t.state).1 with
  | error e =>
    rw [hr] at hquery
    rw [Fallible.exec_bind_error hquery]
    simp
  | ok q =>
    rw [hr] at hquery
    rw [Fallible.exec_bind_ok hquery]
    have hnoted : t.touches.length < (t.touches ++ [Touch.store]).length := by simp
    refine Nat.lt_of_lt_of_le hnoted ?_
    refine Fallible.Keeps.guarded (R := Noted) noted_trans ?_ (fun u => noted_refl u) ⟨_, _⟩
    refine keeps_bind (keeps_lookup store q _ _) fun found => ?_
    cases found with
    | some request =>
      refine keeps_bind (keeps_within _) fun _ => ?_
      exact keeps_bind (keeps_noting _ _) fun _ => keeps_pure _
    | none =>
      refine keeps_bind (keeps_noting _ _) fun answer => ?_
      refine keeps_bind (keeps_within _) fun _ => ?_
      refine keeps_bind (keeps_within _) fun now => ?_
      exact keeps_bind (keeps_noting _ _) fun _ => keeps_pure _

/-! ### What the remote agent was given -/

/-- Behind the remote agent no request is repelled. -/
private theorem not_repelled_decorate (dict : Dictionary) (agent : Agent σ) (store : Store σ κ)
    (env : Environment σ κ) (params : RequestParameters) (t : Traced σ) :
    ¬ Repelled (decorate dict (CachedAgent.authenticateRequestWithParameters (tracedAgent agent)
      (tracedStore store) (tracedEnvironment env).reporter (tracedEnvironment env).now))
        params t := by
  intro h
  rw [Repelled, decorate, AppIdFormattingTrustAgent.authenticateRequestWithParameters,
    WhiteListingAgent.authenticateRequestWithParameters, Fallible.exec_ite] at h
  split at h
  · cases congrArg Prod.fst h
  · exact absurd (congrArg (fun outcome => outcome.2.touches.length) h)
      (Nat.ne_of_gt (cached_touches agent store env _ t))

/-- An outcome that was mapped is a value only if it was one before. -/
theorem map_eq_ok {ε α β : Type} {x : Except ε α} {f : α → β} {b : β}
    (h : x.map f = .ok b) : ∃ a, f a = b := by
  cases x with
  | error e => cases h
  | ok a => exact ⟨a, Except.ok.inj h⟩

/-- Requests that the remote agent hands in are repelled in no configuration: the daemon keeps
its promise to a user only where that user is its own. -/
theorem repelled_iff {factories : String → Option (LocalAgentFactory σ)} {env : Environment σ κ}
    {vm : VariablesMap} {dict : Dictionary} {config : Configuration (Traced σ) κ}
    (h : fromCommandLine (tracedFactories factories) (tracedEnvironment env) vm dict = .ok config)
    (params : RequestParameters) (t : Traced σ) :
    (params.application.uid ≠ env.uid →
      Repelled config.remoteAgent.authenticateRequestWithParameters params t) ↔
      params.application.uid = env.uid := by
  constructor
  · intro hrepelled
    by_contra hforeign
    obtain ⟨factory, agent, store, hfactory, hagent, hstore, himpl, -⟩ := fromCommandLine_cases h
    obtain ⟨factory, -, rfl⟩ := Option.map_eq_some_iff.mp hfactory
    obtain ⟨agent, rfl⟩ := map_eq_ok hagent
    obtain ⟨store, rfl⟩ := map_eq_ok hstore
    have hnot := not_repelled_decorate dict agent store env params t
    rw [← himpl] at hnot
    exact hnot (hrepelled hforeign)
  · intro hown hforeign
    exact absurd hown hforeign

/-- The agent that the configuration keeps for itself would repel them. -/
theorem repelled_localAgent {factories : String → Option (LocalAgentFactory (Traced σ))}
    {env : Environment (Traced σ) κ} {vm : VariablesMap} {dict : Dictionary}
    {config : Configuration (Traced σ) κ} (h : fromCommandLine factories env vm dict = .ok config)
    {params : RequestParameters} (hforeign : params.application.uid ≠ env.uid) (t : Traced σ) :
    Repelled config.localAgent params t := by
  obtain ⟨-, -, -, -, -, -, -, hlocal⟩ := fromCommandLine_cases h
  rw [Repelled, hlocal, PrivilegeEscalationPreventionAgent.authenticateRequestWithParameters,
    if_pos hforeign.symm, Fallible.exec_throw]

/-- A daemon of the user 1000 that asks nobody and denies. -/
def environment : Environment Sqlite.Store Sqlite.QueryId where
  uid := ⟨1000⟩
  createDefaultStore _ := .ok Sqlite.Store.interface
  connect _ := .ok ⟨⟩
  bus _ := .ok ⟨⟩
  useService _ _ := .ok ⟨⟩
  addService _ _ := .ok ⟨⟩
  reporter := CachedAgent.Reporter.silent
  now := return 5

/-- The local agents of such a daemon, without Mir and with a broken terminal. -/
def localAgents : String → Option (LocalAgentFactory Sqlite.Store) :=
  knownLocalAgentFactories (fun _ _ => .error (.runtimeError ""))
    ⟨fun _ _ => return, return .signaled⟩

/-- Its command line. -/
def options : VariablesMap :=
  ⟨"camera", "session", "TheAlwaysDenyingLocalAgent", "UnixDomainSocketRemoteAgent"⟩

/-- The rest of its command line. -/
def dictionary : Dictionary := fun key => if key = "endpoint" then some "/tmp/camera" else none

/-- A request of an unconfined application of the user 1001. -/
def foreign : RequestParameters := ⟨⟨⟨1001⟩, ⟨42⟩, "unconfined"⟩, ⟨1⟩, "Access?"⟩

/-- The store is empty, and nothing was reached yet. -/
def untouched : Traced Sqlite.Store := ⟨Sqlite.Store.empty Sqlite.Engine.stable, []⟩

/-- The promise is not kept to the user 1001. -/
theorem repelled_iff_foreign : ∃ config,
    fromCommandLine (tracedFactories localAgents) (tracedEnvironment environment) options
      dictionary = .ok config ∧
    ((foreign.application.uid ≠ environment.uid →
      Repelled config.remoteAgent.authenticateRequestWithParameters foreign untouched) ↔
      foreign.application.uid = environment.uid) := by
  refine ⟨_, rfl, ?_⟩
  have hconfig : fromCommandLine (tracedFactories localAgents) (tracedEnvironment environment)
      options dictionary = .ok _ := rfl
  exact repelled_iff hconfig foreign untouched

/-- The request of the other user is granted at once. -/
theorem not_repelled_foreign : ∃ config,
    fromCommandLine (tracedFactories localAgents) (tracedEnvironment environment) options
      dictionary = .ok config ∧
    ¬ (foreign.application.uid ≠ environment.uid →
      Repelled config.remoteAgent.authenticateRequestWithParameters foreign untouched) := by
  refine ⟨_, rfl, ?_⟩
  intro h
  have hgranted : ((decorate dictionary (CachedAgent.authenticateRequestWithParameters
      (tracedAgent (dummyAgent .denied)) (tracedStore Sqlite.Store.interface)
        (tracedEnvironment environment).reporter (tracedEnvironment environment).now)
          foreign).exec untouched).1 = .ok .granted := rfl
  have hrepelled := congrArg Prod.fst (h (by decide))
  cases hgranted.symm.trans hrepelled

end TrustStore.Daemon.PrivilegeEscalation
