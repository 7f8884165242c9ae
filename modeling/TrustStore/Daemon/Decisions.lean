import TrustStore.Base.Transition
import TrustStore.Cache.World
import TrustStore.Daemon.WhiteList
import TrustStore.Dbus.Resolve
import TrustStore.Sqlite.Unfailing

/-!
# What a daemon has decided

The daemon on an SQLite store, `src/core/trust/daemon.cpp:287–352`, against a table of decisions: a
request that is not white-listed is answered by what was decided for its application, in whatever
version, and its feature, or else the user is prompted and the answer becomes the decision. The
store is exposed on the bus, where decisions are revoked. The daemon may be restarted at any time;
the decisions are in the database.
-/

namespace TrustStore.Daemon.Decisions

open TrustStore.Base
open TrustStore.Cache (World Call)
open TrustStore.Cache.World (Ready storeOf)
open TrustStore.Sqlite (Row)
open TrustStore.AppIdFormattingTrustAgent (format)
open TrustStore.Daemon.WhiteList (formatted WhiteListed)

/-! ### The table -/

/-- A user: how they react to a prompt and when, given the prompts before it. -/
structure User where
  react : List RequestParameters → RequestParameters → Except Exception Answer
  clock : List RequestParameters → Timestamp

/-- The decisions by application and feature, and the prompts that were shown, newest last. -/
structure Table where
  decision : String → Feature → Option Answer
  prompts : List RequestParameters

/-- An answer becomes the decision. -/
def Table.record (t : Table) (params : RequestParameters) (answer : Answer) : Table :=
  { t with decision := fun id feature =>
      if params.application.id = id ∧ params.feature = feature then some answer
      else t.decision id feature }

/-- A request is looked up, or else the user is prompted. -/
def Table.consult (user : User) (t : Table) (params : RequestParameters) :
    Except Exception Answer × Table :=
  match t.decision params.application.id params.feature with
  | some answer => (.ok answer, t)
  | none =>
    let prompted := { t with prompts := t.prompts ++ [params] }
    match user.react t.prompts params with
    | .ok answer => (.ok answer, prompted.record params answer)
    | .error e => (.error e, prompted)

/-- What is answered to a request from outside: white-listed ones are granted. -/
def Table.answer (user : User) (dict : Dictionary) (t : Table) (params : RequestParameters) :
    Except Exception Answer × Table :=
  if whiteListingPredicate dict (formatted params) then (.ok .granted, t)
  else t.consult user (formatted params)

/-! ### The daemon -/

/-- The agent that prompts the user. -/
def prompting (user : User) : Agent (World RequestParameters) := fun params =>
  Fallible.ofFn fun w =>
    (user.react w.prompts params, { w with prompts := w.prompts ++ [params] })

/-- The system of a daemon whose store is an SQLite store. -/
def environment (user : User) (uid : Uid) (connect bus : String → Except Exception PUnit)
    (useService addService : String → String → Except Exception PUnit) :
    Environment (World RequestParameters) Sqlite.QueryId where
  uid := uid
  createDefaultStore _ := .ok storeOf
  connect := connect
  bus := bus
  useService := useService
  addService := addService
  reporter := CachedAgent.Reporter.silent
  now := do return user.clock (← get).prompts

/-- The local agents of the daemon, where the one that is created for Mir prompts the user. -/
def localAgents (user : User) (posix : Posix (World RequestParameters)) :
    String → Option (LocalAgentFactory (World RequestParameters)) :=
  knownLocalAgentFactories (fun _ _ => .ok (prompting user)) posix

/-- What a daemon that prompts through Mir is started with, the remaining options apart. -/
structure Setup where
  user : User
  posix : Posix (World RequestParameters)
  uid : Uid
  connect : String → Except Exception PUnit
  bus : String → Except Exception PUnit
  useService : String → String → Except Exception PUnit
  addService : String → String → Except Exception PUnit
  /-- the bus that the store is exposed on, as its clients see it -/
  storeBusClients : Dbus.Bus
  forService : String
  storeBus : String
  remoteAgent : String

/-- The configuration for the remaining options. -/
def Setup.configure (setup : Setup) (dict : Dictionary) :
    Except Exception (Configuration (World RequestParameters) Sqlite.QueryId) :=
  fromCommandLine (localAgents setup.user setup.posix)
    (environment setup.user setup.uid setup.connect setup.bus setup.useService setup.addService)
    ⟨setup.forService, setup.storeBus, "MirAgent", setup.remoteAgent⟩ dict

/-! ### Runs -/

/-- A request comes in, a client on the bus removes an application or everything from the store, or
the daemon is stopped and started again, maybe with other options. -/
inductive Event where
  | request (params : RequestParameters)
  | removeApplication (id : String)
  | reset
  | restart (dict : Dictionary)

/-- The options, what requests are answered from, and the results so far, newest last. -/
structure History (σ : Type) where
  dict : Dictionary
  state : σ
  results : List (RequestParameters × Except Exception Answer)

/-- Nothing was requested yet. -/
def start {σ : Type} (dict : Dictionary) (state : σ) : History σ := ⟨dict, state, []⟩

/-- What is answered to a request is added to the results. -/
def History.answered {σ : Type} (h : History σ) (params : RequestParameters)
    (outcome : Except Exception Answer × σ) : History σ :=
  ⟨h.dict, outcome.2, h.results ++ [(params, outcome.1)]⟩

/-- One event, for the table. -/
def Table.step (user : User) (h : History Table) : Event → Option (History Table)
  | .request params => some (h.answered params (h.state.answer user h.dict params))
  | .removeApplication id => some { h with state := { h.state with
      decision := fun other feature =>
        if other = id then none else h.state.decision other feature } }
  | .reset => some { h with state := { h.state with decision := fun _ _ => none } }
  | .restart dict => some { h with dict }

/-- What a daemon works on: its store, exposed on the bus, and the prompts that were shown. -/
abbrev Exposed := Dbus.Token (World RequestParameters) Sqlite.QueryId

/-- `expose_store_to_bus_with_name`, at the beginning of `Daemon::Skeleton::main`;
`src/core/trust/daemon.cpp:341–352`. -/
def expose (w : World RequestParameters) : Exposed := ⟨w, 0, fun _ => none, []⟩

/-- One event, for the daemon, which opens the database anew when it is started. -/
def Setup.step (setup : Setup) (h : History Exposed) : Event → Option (History Exposed)
  | .request params =>
    match setup.configure h.dict with
    | .error _ => none
    | .ok config => some (h.answered params ((Dbus.Token.onStore
        (config.remoteAgent.authenticateRequestWithParameters params)).exec h.state))
  | .removeApplication id => some { h with
      state := ((Dbus.Resolve.removeApplication setup.storeBusClients storeOf id).exec h.state).2 }
  | .reset => some { h with
      state := ((Dbus.Resolve.reset setup.storeBusClients storeOf).exec h.state).2 }
  | .restart dict =>
    match setup.configure dict with
    | .error _ => none
    | .ok _ => some { h with
        dict := dict
        state := expose { h.state.store with
          store := Sqlite.Store.onConnection h.state.store.store.db } }

/-- Names for daemons, where there are several. -/
abbrev DaemonId := Nat

/-- The agent that requests come to from outside, which answers them while the daemon runs;
`src/core/trust/remote/agent.cpp:33–36`. -/
def Setup.agent (setup : Setup) : Agent (History Exposed) := fun params => Fallible.ofFn fun h =>
  match setup.configure h.dict with
  | .error e => (.error e, h)
  | .ok config =>
    let outcome := (Dbus.Token.onStore
      (config.remoteAgent.authenticateRequestWithParameters params)).exec h.state
    (outcome.1, h.answered params outcome)

/-- A daemon has come up with its options. -/
def Setup.running (setup : Setup) (h : History Exposed) : Bool := (setup.configure h.dict).isOk

/-- A daemon that runs takes a request from outside as one of its events. -/
theorem Setup.agent_exec {setup : Setup} {h : History Exposed} (hrunning : setup.running h)
    (params : RequestParameters) :
    ∃ result h', (setup.agent params).exec h = (result, h') ∧
      setup.step h (.request params) = some h' ∧
      h'.results.getLast? = some (params, result) := by
  rw [Setup.running] at hrunning
  simp only [Setup.agent, Fallible.exec_ofFn, Setup.step]
  cases hconfig : setup.configure h.dict with
  | error e =>
    rw [hconfig] at hrunning
    cases hrunning
  | ok config => exact ⟨_, _, rfl, rfl, List.getLast?_concat ..⟩

/-- A request that is looked up has an application id and a feature that can be stored, and so has
an application that is removed. -/
def Admissible {σ : Type} (h : History σ) : Event → Prop
  | .request params => WhiteListed h.dict params.application.id ∨
      params.application.id ≠ "" ∧ Storable params.feature
  | .removeApplication id => id ≠ ""
  | .reset | .restart _ => True

/-- Applications that are on no white list, whatever the options. -/
def Unlisted (id : String) : Prop := ¬ WhiteListed (fun _ => none) id

/-- What a database has decided: the newest answer for each application and feature. -/
def decisions (store : Sqlite.Store) (id : String) (feature : Feature) : Option Answer :=
  (store.db.matching id feature).head?.map fun row => row.request.answer

/-- No SQLite call fails for a reason of its own, and none has left a statement of the store
halted. -/
structure AtRest (store : Sqlite.Store) : Prop extends Ready store where
  delete : store.deleteStatement.cursor.errorCode = none
  removeApplication : store.removeApplicationStatement.cursor.errorCode = none

/-- The table has the decisions of the database and the same history. -/
structure Shows (t : History Table) (h : History Exposed) : Prop where
  dict : t.dict = h.dict
  results : t.results = h.results
  prompts : t.state.prompts = h.state.store.prompts
  decision : t.state.decision = decisions h.state.store.store
  atRest : AtRest h.state.store.store

/-! ### One request -/

/-- The call that a request to the cached agent is. -/
def callOf (user : User) (w : World RequestParameters) (params : RequestParameters) :
    Call RequestParameters where
  params := params
  prompt := user.react w.prompts params
  entry := id
  now := user.clock (w.prompts ++ [params])

/-- The statements with which rows are removed are as they were. -/
structure SameStatements (w v : World RequestParameters) : Prop where
  delete : v.store.deleteStatement = w.store.deleteStatement
  removeApplication : v.store.removeApplicationStatement = w.store.removeApplicationStatement

/-- The prompts are as they were, too. -/
structure Undisturbed (w v : World RequestParameters) : Prop extends SameStatements w v where
  prompts : v.prompts = w.prompts

private theorem SameStatements.trans {w v u : World RequestParameters} (h : SameStatements w v)
    (h' : SameStatements v u) : SameStatements w u :=
  ⟨h'.delete.trans h.delete, h'.removeApplication.trans h.removeApplication⟩

private theorem undisturbed_bind {α β : Type} {m : Action (World RequestParameters) α}
    {f : α → Action (World RequestParameters) β} (hm : Fallible.Keeps Undisturbed m)
    (hf : ∀ a, Fallible.Keeps Undisturbed (f a)) : Fallible.Keeps Undisturbed (m >>= f) :=
  Fallible.Keeps.bind (R := Undisturbed)
    (fun h h' => ⟨h.toSameStatements.trans h'.toSameStatements, h'.prompts.trans h.prompts⟩) hm hf

private theorem undisturbed_lookup (q : Sqlite.QueryId) (id : String) (feature : Feature) :
    Fallible.Keeps Undisturbed (storeOf.lookup q id feature) := by
  refine undisturbed_bind (fun _ => ⟨⟨rfl, rfl⟩, rfl⟩) fun _ => ?_
  refine undisturbed_bind (fun _ => ⟨⟨rfl, rfl⟩, rfl⟩) fun _ => ?_
  refine undisturbed_bind (fun _ => ⟨⟨rfl, rfl⟩, rfl⟩) fun _ => ?_
  refine undisturbed_bind (fun _ => ⟨⟨rfl, rfl⟩, rfl⟩) fun status => ?_
  split
  · exact undisturbed_bind (fun _ => ⟨⟨rfl, rfl⟩, rfl⟩) fun _ => fun _ => ⟨⟨rfl, rfl⟩, rfl⟩
  · exact fun _ => ⟨⟨rfl, rfl⟩, rfl⟩

private theorem sameStatements_bind {α β : Type} {m : Action (World RequestParameters) α}
    {f : α → Action (World RequestParameters) β} (hm : Fallible.Keeps SameStatements m)
    (hf : ∀ a, Fallible.Keeps SameStatements (f a)) : Fallible.Keeps SameStatements (m >>= f) :=
  Fallible.Keeps.bind (R := SameStatements) SameStatements.trans hm hf

private theorem sameStatements_query : Fallible.Keeps SameStatements
    (storeOf (ρ := RequestParameters)).query := by
  intro w
  have hquery : ∀ s : Sqlite.Store,
      (Sqlite.Store.query.exec s).2.deleteStatement = s.deleteStatement ∧
      (Sqlite.Store.query.exec s).2.removeApplicationStatement =
        s.removeApplicationStatement := by
    intro s
    rw [Sqlite.Store.query, Fallible.exec_ofFn]
    cases hcreate : Sqlite.Query.create.exec s.db with
    | mk result db => cases result <;> exact ⟨rfl, rfl⟩
  exact ⟨(hquery w.store).1, (hquery w.store).2⟩

private theorem sameStatements_add (request : Request) : Fallible.Keeps SameStatements
    ((storeOf (ρ := RequestParameters)).add request) := by
  intro w
  have hadd : ((Sqlite.Store.add request).exec w.store).2.deleteStatement =
      w.store.deleteStatement ∧
      ((Sqlite.Store.add request).exec w.store).2.removeApplicationStatement =
        w.store.removeApplicationStatement := by
    rw [Sqlite.Store.add_eq, Fallible.exec_bind_pure_snd]
    exact ⟨rfl, rfl⟩
  exact ⟨hadd.1, hadd.2⟩

/-- A request to the cached agent leaves the statements that remove rows alone. -/
private theorem sameStatements_cached (user : User) (params : RequestParameters) :
    Fallible.Keeps SameStatements (CachedAgent.authenticateRequestWithParameters (prompting user)
      storeOf CachedAgent.Reporter.silent (do return user.clock (← get).prompts) params) := by
  refine sameStatements_bind sameStatements_query fun q => ?_
  refine Fallible.Keeps.guarded (R := SameStatements) SameStatements.trans ?_ fun _ => ⟨rfl, rfl⟩
  refine sameStatements_bind
    (fun w => (undisturbed_lookup q params.application.id params.feature w).toSameStatements)
    fun found => ?_
  cases found with
  | some request =>
    exact sameStatements_bind (fun _ => ⟨rfl, rfl⟩) fun _ =>
      sameStatements_bind (fun _ => ⟨rfl, rfl⟩) fun _ => fun _ => ⟨rfl, rfl⟩
  | none =>
    refine sameStatements_bind (fun _ => ⟨rfl, rfl⟩) fun answer => ?_
    refine sameStatements_bind (fun _ => ⟨rfl, rfl⟩) fun _ => ?_
    refine sameStatements_bind (fun _ => ⟨rfl, rfl⟩) fun now => ?_
    exact sameStatements_bind (sameStatements_add _) fun _ => fun _ => ⟨rfl, rfl⟩

/-- A request to the cached agent is a call whose prompt ends as the user reacts. -/
theorem cached_exec (user : User) (w : World RequestParameters) (params : RequestParameters) :
    (CachedAgent.authenticateRequestWithParameters (prompting user) storeOf
      CachedAgent.Reporter.silent (do return user.clock (← get).prompts) params).exec w =
        (World.authenticate (callOf user w params)).exec w := by
  rw [World.authenticate, CachedAgent.authenticateRequestWithParameters,
    CachedAgent.authenticateRequestWithParameters, Fallible.exec_bind, Fallible.exec_bind]
  have hquery : (storeOf.query.exec w).2.prompts = w.prompts := rfl
  rcases hq : storeOf.query.exec w with ⟨e | q, s⟩
  · rfl
  rw [hq] at hquery
  simp only [Fallible.exec_guarded]
  have hlookup := (undisturbed_lookup q params.application.id params.feature s).prompts
  have hcallOf : (callOf user w params).params = params := rfl
  rw [Fallible.exec_bind, Fallible.exec_bind, hcallOf]
  rcases hl : (storeOf.lookup q params.application.id params.feature).exec s with ⟨e | found, t⟩
  · rfl
  rw [hl] at hlookup
  cases found with
  | some request => rfl
  | none =>
    -- Both agents are asked in a world with the prompts of `w`.
    have hprompts : t.prompts = w.prompts := hlookup.trans hquery
    have hasked : ((prompting user params).exec t).2.prompts = w.prompts ++ [params] :=
      congrArg (· ++ [params]) hprompts
    have hask : (World.prompting (callOf user w params) params).exec t =
        (prompting user params).exec t := by
      simp only [prompting, World.prompting, Fallible.exec_ofFn, callOf, hprompts, id]
    simp only [CachedAgent.Reporter.silent, pure_bind]
    rcases hr : (prompting user params).exec t with ⟨e | answer, u⟩
    · rw [Fallible.exec_bind_error hr, Fallible.exec_bind_error (hask.trans hr)]
    · rw [hr] at hasked
      rw [Fallible.exec_bind_ok hr, Fallible.exec_bind_ok (hask.trans hr)]
      have hnow : user.clock u.prompts = (callOf user w params).now :=
        congrArg user.clock hasked
      simp only [Fallible.exec_bind, Fallible.exec_get, Fallible.exec_pure, hnow]

/-- The row of a request with a storable feature is found for its application and feature only. -/
theorem selects_ofRequest {r : Request} (hr : Storable r.feature) (rowid : Int64) (id : String)
    (feature : Feature) :
    Sqlite.selects (Sqlite.narrowed id feature) (Row.ofRequest rowid r) =
      decide (r.origin = id ∧ r.feature = feature) := by
  have hcolumn : Sqlite.featureColumn r.feature = r.feature.value.toInt64 :=
    (Sqlite.featureColumn_eq_iff _).mpr hr
  rw [Sqlite.selects_narrowed, decide_eq_decide]
  simp only [Row.ofRequest, hcolumn, Sqlite.Value.text.injEq, Sqlite.Value.integer.injEq]
  constructor
  · rintro ⟨hid, hsame, -, -⟩
    exact ⟨hid, Sqlite.feature_inj hsame⟩
  · rintro ⟨rfl, rfl⟩
    exact ⟨rfl, rfl, by simp, by simp⟩

/-- Where nothing was decided, an answer decides. -/
theorem decisions_added {store store' : Sqlite.Store} {call : Call RequestParameters}
    (hfeature : Storable call.params.feature) (hrows : call.matching store = []) {answer : Answer}
    {rowid : Int64}
    (hreq : store'.db.requests = store.db.requests ++ [Row.ofRequest rowid (call.request answer)])
    (hengine : store'.db.engine = store.db.engine) (id : String) (feature : Feature) :
    decisions store' id feature =
      if call.params.application.id = id ∧ call.params.feature = feature then some answer
      else decisions store id feature := by
  have hselects : Sqlite.selects (Sqlite.narrowed id feature)
      (Row.ofRequest rowid (call.request answer)) =
        decide (call.params.application.id = id ∧ call.params.feature = feature) :=
    selects_ofRequest (show Storable (call.request answer).feature from hfeature) rowid id feature
  rw [decisions, decisions, Sqlite.Connection.matching, Sqlite.Connection.matching, hengine, hreq,
    List.filter_append, List.filter_singleton, hselects]
  split
  next hsame =>
    obtain ⟨rfl, rfl⟩ := hsame
    have hnone : store.db.requests.filter (Sqlite.selects
        (Sqlite.narrowed call.params.application.id call.params.feature)) = [] := by
      have hperm := store.db.engine.sort_perm (store.db.requests.filter (Sqlite.selects
        (Sqlite.narrowed call.params.application.id call.params.feature)))
      rw [show store.db.engine.sort _ = [] from hrows] at hperm
      exact hperm.nil_eq.symm
    have hsorted : store.db.engine.sort [Row.ofRequest rowid (call.request answer)] =
        [Row.ofRequest rowid (call.request answer)] :=
      List.perm_singleton.mp (store.db.engine.sort_perm _)
    simp only [hnone, and_self, decide_true, cond_true, List.nil_append, hsorted, List.head?_cons,
      Option.map_some, Row.answer_ofRequest]
    rfl
  next hother => simp [hother]

/-- Reading leaves the decisions alone. -/
theorem decisions_eq {s t : Sqlite.Store} (hreq : t.db.requests = s.db.requests)
    (hengine : t.db.engine = s.db.engine) : decisions t = decisions s := by
  funext id feature
  rw [decisions, decisions, Sqlite.Connection.matching, Sqlite.Connection.matching, hreq, hengine]

/-- A request to the cached agent goes as the table says. -/
private theorem consult_shows {setup : Setup} {t : Table} {w : World RequestParameters}
    {params : RequestParameters} (hid : params.application.id ≠ "")
    (hfeature : Storable params.feature) (hready : Ready w.store) (hprompts : t.prompts = w.prompts)
    (hdecision : t.decision = decisions w.store) :
    ∃ v, (CachedAgent.authenticateRequestWithParameters (prompting setup.user) storeOf
        CachedAgent.Reporter.silent (do return setup.user.clock (← get).prompts) params).exec w =
          ((t.consult setup.user params).1, v) ∧
      Ready v.store ∧ (t.consult setup.user params).2.prompts = v.prompts ∧
      (t.consult setup.user params).2.decision = decisions v.store := by
  rw [cached_exec, Table.consult, hdecision]
  have hfound : decisions w.store params.application.id params.feature =
      ((callOf setup.user w params).matching w.store).head?.map fun row => row.request.answer := rfl
  rw [hfound]
  cases hrows : (callOf setup.user w params).matching w.store with
  | cons row rest =>
    obtain ⟨store, hexec, hreads, hready'⟩ := World.authenticate_hit
      (show (callOf setup.user w params).params.application.id ≠ "" from hid) hready hrows
    exact ⟨{ w with store }, hexec, hready', hprompts,
      hdecision.trans (decisions_eq hreads.requests hreads.engine).symm⟩
  | nil =>
    obtain ⟨store, rowid, hexec, hreq, hengine, hready'⟩ := World.authenticate_miss
      (show (callOf setup.user w params).params.application.id ≠ "" from hid) hready hrows
    have hprompt : (callOf setup.user w params).prompt = setup.user.react t.prompts params := by
      rw [hprompts]
      rfl
    refine ⟨⟨store, w.prompts ++ [params]⟩, ?_⟩
    rw [hexec, hprompt]
    rw [World.added, hprompt] at hreq
    simp only [List.head?_nil, Option.map_none]
    cases hreact : setup.user.react t.prompts params with
    | error e =>
      rw [hreact, List.append_nil] at hreq
      exact ⟨rfl, hready', congrArg (· ++ [params]) hprompts, (decisions_eq hreq hengine).symm⟩
    | ok answer =>
      rw [hreact] at hreq
      refine ⟨rfl, hready', congrArg (· ++ [params]) hprompts, ?_⟩
      funext id feature
      exact (decisions_added hfeature hrows hreq hengine id feature).symm

/-- The remote agent of every configuration is the decorated cached agent. -/
private theorem configure_impl {setup : Setup} {dict : Dictionary}
    {config : Configuration (World RequestParameters) Sqlite.QueryId}
    (h : setup.configure dict = .ok config) :
    config.remoteAgent.impl = decorate dict
      (CachedAgent.authenticateRequestWithParameters (prompting setup.user) storeOf
        CachedAgent.Reporter.silent (do return setup.user.clock (← get).prompts)) := by
  obtain ⟨factory, agent, store, hfactory, hagent, hstore, himpl, -⟩ := fromCommandLine_cases h
  cases hstore
  cases hfactory
  cases hsocket : dict "trusted-mir-socket" with
  | none => simp [hsocket] at hagent
  | some socket =>
    simp only [hsocket] at hagent
    cases hagent
    exact himpl

/-- An id does not become empty by losing its version. -/
theorem format_ne_empty {id : String} (hid : id ≠ "") : format id ≠ "" := by
  by_cases h : ∃ unversioned version, AppIdFormattingTrustAgent.Versioned id unversioned version
  · obtain ⟨unversioned, version, h⟩ := h
    rw [AppIdFormattingTrustAgent.format_of_versioned h]
    intro hempty
    have hnil : unversioned = [] := String.ofList_injective hempty
    exact absurd h.qualified (by simp [hnil])
  · rwa [AppIdFormattingTrustAgent.format_of_not_versioned fun _ _ hversioned =>
      h ⟨_, _, hversioned⟩]

/-! ### Revocation -/

/-- A removal takes the decisions for the application away. -/
theorem decisions_removed {s t : Sqlite.Store} {removed : String}
    (hreq : t.db.requests = s.db.requests.filter fun r => !r.applicationId.equals (.text removed))
    (hengine : t.db.engine = s.db.engine) (id : String) (feature : Feature) :
    decisions t id feature = if id = removed then none else decisions s id feature := by
  have hother : t.db.requests.filter (Sqlite.selects (Sqlite.narrowed id feature)) =
      if id = removed then []
      else s.db.requests.filter (Sqlite.selects (Sqlite.narrowed id feature)) := by
    rw [hreq, List.filter_filter]
    split
    next hsame =>
      subst hsame
      apply List.filter_eq_nil_iff.mpr
      intro row _
      simp only [Sqlite.selects_narrowed, Sqlite.Value.equals]
      grind
    next hne =>
      apply List.filter_congr
      intro row _
      simp only [Sqlite.selects_narrowed, Sqlite.Value.equals]
      grind
  rw [decisions, decisions, Sqlite.Connection.matching, Sqlite.Connection.matching, hengine, hother]
  split
  · have hnil : s.db.engine.sort [] = [] := List.perm_nil.mp (s.db.engine.sort_perm [])
    rw [hnil]
    rfl
  · rfl

/-- A client on the bus removes an application. -/
theorem removeApplication_exec (bus : Dbus.Bus) {exposed : Exposed}
    (hrest : AtRest exposed.store.store) {id : String} (hid : id ≠ "") :
    ∃ store, ((Dbus.Resolve.removeApplication bus storeOf id).exec exposed).2.store =
        ⟨store, exposed.store.prompts⟩ ∧ AtRest store ∧
      store.db.requests = exposed.store.store.db.requests.filter
        (fun r => !r.applicationId.equals (.text id)) ∧
      store.db.engine = exposed.store.store.db.engine := by
  have hremove := Sqlite.Store.removeApplication_exec_ne hrest.faults hrest.removeApplication hid
  have hzoom : (storeOf.removeApplication id).exec exposed.store =
      (.ok (), ⟨_, exposed.store.prompts⟩) := congrArg
        (fun outcome => (outcome.1, (⟨outcome.2, exposed.store.prompts⟩ : World _))) hremove
  rw [Dbus.Resolve.removeApplication_ok hzoom]
  exact ⟨_, rfl, ⟨⟨hrest.faults, hrest.insert⟩, hrest.delete, rfl⟩, rfl, rfl⟩

/-- A client on the bus resets the store. -/
theorem reset_exec (bus : Dbus.Bus) {exposed : Exposed} (hrest : AtRest exposed.store.store) :
    ∃ store, ((Dbus.Resolve.reset bus storeOf).exec exposed).2.store =
        ⟨store, exposed.store.prompts⟩ ∧ AtRest store ∧ store.db.requests = [] := by
  have hreset := Sqlite.Store.reset_exec hrest.faults hrest.delete
  have hzoom : storeOf.reset.exec exposed.store = (.ok (), ⟨_, exposed.store.prompts⟩) := congrArg
    (fun outcome => (outcome.1, (⟨outcome.2, exposed.store.prompts⟩ : World _))) hreset
  rw [Dbus.Resolve.reset_ok hzoom]
  exact ⟨_, rfl, ⟨⟨hrest.faults, hrest.insert⟩, rfl, hrest.removeApplication⟩, rfl⟩

/-- Nothing is decided in a database without requests. -/
theorem decisions_reset {store : Sqlite.Store} (hreq : store.db.requests = [])
    (id : String) (feature : Feature) : decisions store id feature = none := by
  have hnil : store.db.engine.sort [] = [] := List.perm_nil.mp (store.db.engine.sort_perm [])
  simp only [decisions, Sqlite.Connection.matching, hreq, List.filter_nil, hnil]
  rfl

/-! ### Whole runs -/

/-- What is answered to a request is shown if it comes out the same and leaves the same behind. -/
private theorem Shows.answered {t : History Table} {h : History Exposed} (hshows : Shows t h)
    (params : RequestParameters) {result : Except Exception Answer} {table : Table}
    {exposed : Exposed} (hprompts : table.prompts = exposed.store.prompts)
    (hdecision : table.decision = decisions exposed.store.store)
    (hrest : AtRest exposed.store.store) :
    Shows (t.answered params (result, table)) (h.answered params (result, exposed)) where
  dict := hshows.dict
  results := congrArg (· ++ [(params, result)]) hshows.results
  prompts := hprompts
  decision := hdecision
  atRest := hrest

/-- An event that the daemon goes along with is what the table makes of it. -/
theorem shows_step {setup : Setup} {t : History Table} {h h' : History Exposed}
    {event : Event} (hshows : Shows t h) (hadmissible : Admissible h event)
    (hstep : setup.step h event = some h') :
    ∃ t', Table.step setup.user t event = some t' ∧ Shows t' h' := by
  cases event with
  | request params =>
    rw [Setup.step] at hstep
    split at hstep
    · cases hstep
    next config hconfig =>
      cases hstep
      refine ⟨_, rfl, ?_⟩
      rw [RemoteAgent.authenticateRequestWithParameters, configure_impl hconfig, Table.answer,
        hshows.dict]
      by_cases hlisted : WhiteListed h.dict params.application.id
      · rw [if_pos ((WhiteList.whiteListingPredicate_iff _ _).mpr hlisted),
          WhiteList.decorate_of_whiteListed hlisted]
        exact hshows.answered params hshows.prompts hshows.decision hshows.atRest
      · obtain ⟨hid, hfeature⟩ := hadmissible.resolve_left hlisted
        have hformatted : (formatted params).application.id ≠ "" := format_ne_empty hid
        obtain ⟨w, hexec, hready, hprompts, hdecision⟩ :=
          @consult_shows setup t.state h.state.store (formatted params) hformatted hfeature
            hshows.atRest.toReady hshows.prompts hshows.decision
        have hsame := sameStatements_cached setup.user (formatted params) h.state.store
        rw [hexec] at hsame
        rw [if_neg (mt (WhiteList.whiteListingPredicate_iff _ _).mp hlisted),
          WhiteList.decorate_of_not_whiteListed hlisted, Dbus.Token.onStore_exec hexec]
        exact hshows.answered params hprompts hdecision
          ⟨hready, hsame.delete ▸ hshows.atRest.delete,
            hsame.removeApplication ▸ hshows.atRest.removeApplication⟩
  | removeApplication id =>
    cases hstep
    obtain ⟨store, hstore, hrest, hreq, hengine⟩ :=
      removeApplication_exec setup.storeBusClients hshows.atRest hadmissible
    refine ⟨_, rfl, hshows.dict, hshows.results, ?_, ?_, ?_⟩
    · simp only [hstore, hshows.prompts]
    · funext other feature
      simp only [hstore, decisions_removed hreq hengine, hshows.decision]
    · simp only [hstore]
      exact hrest
  | reset =>
    cases hstep
    obtain ⟨store, hstore, hrest, hreq⟩ := reset_exec setup.storeBusClients hshows.atRest
    refine ⟨_, rfl, hshows.dict, hshows.results, ?_, ?_, ?_⟩
    · simp only [hstore, hshows.prompts]
    · funext id feature
      simp only [hstore, decisions_reset hreq]
    · simp only [hstore]
      exact hrest
  | restart dict =>
    rw [Setup.step] at hstep
    split at hstep
    · cases hstep
    · cases hstep
      exact ⟨_, rfl, rfl, hshows.results, hshows.prompts, hshows.decision,
        ⟨⟨hshows.atRest.faults, rfl⟩, rfl, rfl⟩⟩

/-- A request leaves the rows of the database alone, or adds one that it found nothing for. -/
theorem request_rows {setup : Setup} {h h' : History Exposed} {params : RequestParameters}
    (hrest : AtRest h.state.store.store) (hadmissible : Admissible h (.request params))
    (hstep : setup.step h (.request params) = some h') :
    h'.state.store.store.db.engine = h.state.store.store.db.engine ∧
    (h'.state.store.store.db.requests = h.state.store.store.db.requests ∨
      h.state.store.store.db.matching (format params.application.id) params.feature = [] ∧
        Storable params.feature ∧ ∃ rowid when answer,
          h'.state.store.store.db.requests = h.state.store.store.db.requests ++ [Row.ofRequest rowid
            ⟨format params.application.id, params.feature, when, answer⟩]) := by
  rw [Setup.step] at hstep
  split at hstep
  · cases hstep
  next config hconfig =>
  cases hstep
  rw [RemoteAgent.authenticateRequestWithParameters, configure_impl hconfig]
  by_cases hlisted : WhiteListed h.dict params.application.id
  · rw [WhiteList.decorate_of_whiteListed hlisted]
    exact ⟨rfl, .inl rfl⟩
  rw [WhiteList.decorate_of_not_whiteListed hlisted]
  have hid : (formatted params).application.id ≠ "" :=
    format_ne_empty (hadmissible.resolve_left hlisted).1
  have hcached := cached_exec setup.user h.state.store (formatted params)
  cases hrows : (callOf setup.user h.state.store (formatted params)).matching
      h.state.store.store with
  | cons row rest =>
    obtain ⟨store, hexec, hreads, -⟩ := World.authenticate_hit
      (show (callOf setup.user h.state.store (formatted params)).params.application.id ≠ ""
        from hid) hrest.toReady hrows
    rw [Dbus.Token.onStore_exec (hcached.trans hexec)]
    exact ⟨hreads.engine, .inl hreads.requests⟩
  | nil =>
    obtain ⟨store, rowid, hexec, hreq, hengine, -⟩ := World.authenticate_miss
      (show (callOf setup.user h.state.store (formatted params)).params.application.id ≠ ""
        from hid) hrest.toReady hrows
    rw [Dbus.Token.onStore_exec (hcached.trans hexec)]
    rw [World.added] at hreq
    refine ⟨hengine, ?_⟩
    cases hprompt : (callOf setup.user h.state.store (formatted params)).prompt with
    | error e =>
      rw [hprompt, List.append_nil] at hreq
      exact .inl hreq
    | ok answer =>
      rw [hprompt] at hreq
      exact .inr ⟨hrows, (hadmissible.resolve_left hlisted).2, rowid, _, answer, hreq⟩

/-- The table of what a database has decided, before anybody was prompted. -/
def Table.ofStore (store : Sqlite.Store) : Table := ⟨decisions store, []⟩

/-- A daemon whose store was just opened. -/
def launch (dict : Dictionary) (store : Sqlite.Store) : History Exposed :=
  start dict (expose ⟨store, []⟩)

/-- The table shows a daemon at its launch. -/
theorem shows_start {store : Sqlite.Store} (hstore : AtRest store) (dict : Dictionary) :
    Shows (start dict (Table.ofStore store)) (launch dict store) :=
  ⟨rfl, rfl, rfl, rfl, hstore⟩

/-- Whatever events the daemon goes along with, the table shows what comes of them. -/
theorem shows_run {setup : Setup} {t : History Table} {h h' : History Exposed}
    {events : List Event} (hshows : Shows t h)
    (hadmissible : Transition.Meets setup.step Admissible h events)
    (hrun : Transition.run setup.step h events = some h') :
    ∃ t', Transition.run (Table.step setup.user) t events = some t' ∧ Shows t' h' := by
  have hstep : ∀ t h event h', Shows t h → Admissible h event → setup.step h event = some h' →
      ∃ t', Table.step setup.user t event = some t' ∧ Shows t' h' :=
    fun _ _ _ _ hshows hC => shows_step hshows hC
  exact Transition.simulation_run hstep hshows hadmissible hrun

/-- In every run of admissible requests, of removals by clients on the bus and of restarts, a daemon
on any database at rest answers and prompts as the table of what the database had decided does. -/
theorem table_run {setup : Setup} {store : Sqlite.Store} {dict : Dictionary}
    {events : List Event} {h : History Exposed} (hstore : AtRest store)
    (hadmissible : Transition.Meets setup.step Admissible (launch dict store) events)
    (hrun : Transition.run setup.step (launch dict store) events = some h) :
    ∃ t, Transition.run (Table.step setup.user) (start dict (Table.ofStore store)) events =
        some t ∧
      t.results = h.results ∧ t.state.prompts = h.state.store.prompts ∧
      t.state.decision = decisions h.state.store.store := by
  obtain ⟨t, ht, hshows⟩ := shows_run (shows_start hstore dict) hadmissible hrun
  exact ⟨t, ht, hshows.results, hshows.prompts, hshows.decision⟩

/-- A user who grants only what they are prompted for first. -/
def impatient : User where
  react prompts _ := .ok (if prompts = [] then .granted else .denied)
  clock _ := 5

/-- A daemon for the camera that listens on a socket. -/
def camera : Setup where
  user := impatient
  posix := ⟨fun _ _ => return, return .signaled⟩
  uid := ⟨1000⟩
  connect _ := .ok ⟨⟩
  bus _ := .ok ⟨⟩
  useService _ _ := .ok ⟨⟩
  addService _ _ := .ok ⟨⟩
  storeBusClients := ⟨fun _ what => what, .runtimeError "No reply", .error .creatingQuery ""⟩
  forService := "camera"
  storeBus := "session"
  remoteAgent := "UnixDomainSocketRemoteAgent"

/-- Its remaining options. -/
def sockets : Dictionary := fun key =>
  if key = "endpoint" then some "/tmp/camera"
  else if key = "trusted-mir-socket" then some "/tmp/mir"
  else none

/-- A request of a version of an application. -/
def requestOf (version : String) (feature : Feature) : RequestParameters :=
  ⟨⟨⟨1000⟩, ⟨42⟩, "org.app_app_" ++ version⟩, feature, "Access?"⟩

/-- Requests, before and after the application is updated. -/
def updated : List Event :=
  [.request (requestOf "1.0" ⟨1⟩), .restart sockets, .request (requestOf "2.0" ⟨2⟩),
    .request (requestOf "2.0" ⟨1⟩)]

/-- The application is removed in between. -/
def revoked : List Event :=
  updated ++ [.removeApplication "org.app_app", .request (requestOf "2.0" ⟨1⟩)]

/-- The table has the user prompted for both features, and once more after the removal. -/
theorem table_run_revoked : ∃ h t,
    Transition.run camera.step (launch sockets (Sqlite.Store.empty Sqlite.Engine.stable))
      revoked = some h ∧
    Transition.run (Table.step impatient)
      (start sockets (Table.ofStore (Sqlite.Store.empty Sqlite.Engine.stable))) revoked = some t ∧
    t.results.map Prod.snd = [.ok .granted, .ok .denied, .ok .granted, .ok .denied] ∧
    t.results = h.results ∧ t.state.prompts = h.state.store.prompts := by
  have hrun : Transition.run camera.step
      (launch sockets (Sqlite.Store.empty Sqlite.Engine.stable)) revoked = some _ := rfl
  have hadmissible : Transition.Meets camera.step Admissible
      (launch sockets (Sqlite.Store.empty Sqlite.Engine.stable)) revoked :=
    ⟨.inr (by decide), fun _ _ => ⟨trivial, fun _ _ => ⟨.inr (by decide), fun _ _ =>
      ⟨.inr (by decide), fun _ _ => ⟨(by decide : "org.app_app" ≠ ""), fun _ _ =>
        ⟨.inr (by decide), fun _ _ => trivial⟩⟩⟩⟩⟩⟩
  obtain ⟨t, ht, hresults, hprompts, -⟩ := table_run ⟨⟨rfl, rfl⟩, rfl, rfl⟩ hadmissible hrun
  exact ⟨_, t, hrun, ht, by rw [hresults]; rfl, hresults, hprompts⟩

end TrustStore.Daemon.Decisions
