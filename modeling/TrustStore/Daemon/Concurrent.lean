import Mathlib.Data.Fintype.Basic
import TrustStore.Cache.Race
import TrustStore.Daemon.LastWord
import TrustStore.Sqlite.Recovery

/-!
# Requests at the same time

The workers of a runtime, `src/core/trust/runtime.cpp:55–68`, answer any number of requests at the
same time, while clients on the bus remove requests from the store. Every call to the store is one
step, as the store has a lock, but a request takes up to three: it runs its query, has the user
prompted and adds their answer. Requests are answered as if they came one after the other, as long
as no two of them wait for the user about the same feature of an application.
-/

namespace TrustStore.Daemon.Concurrent

open TrustStore.Base
open TrustStore.Cache.Race (Phase)
open TrustStore.Sqlite (Row)
open TrustStore.Sqlite.Store (OnlyReads interface)
open TrustStore.Daemon.Decisions (About decisions)
open TrustStore.Daemon.WhiteList (formatted WhiteListed)

variable {ι : Type} [DecidableEq ι]

/-! ### Steps -/

/-- The store, and how far each request has come. -/
structure State (ι : Type) where
  store : Sqlite.Store
  phases : ι → Phase

/-- A worker takes the next step of a request, or a client on the bus removes an application or
everything from the store. The reaction is that of the user, if the step is a prompt, and the time
is that of the addition, if it is one. -/
inductive Label (ι : Type) where
  | request (i : ι) (reaction : Except Exception Answer) (now : Timestamp)
  | removeApplication (id : String)
  | reset

/-- No request has come yet. -/
def start (store : Sqlite.Store) : State ι := ⟨store, fun _ => .idle⟩

/-- The state after a step of one request. -/
def State.after (s : State ι) (i : ι) (store : Sqlite.Store) (phase : Phase) : State ι :=
  ⟨store, Function.update s.phases i phase⟩

/-- What a request came to. -/
def result : Phase → Option (Except Exception Answer)
  | .idle | .missed _ | .prompted .. => none
  | .returned answer _ => some (.ok answer)
  | .threw e => some (.error e)

/-- The next step of a request with formatted parameters. White-listed ones are granted. -/
def State.next (dict : Dictionary) (s : State ι) (i : ι) (params : RequestParameters)
    (reaction : Except Exception Answer) (now : Timestamp) : Option (State ι) :=
  match s.phases i with
  | .idle =>
    if whiteListingPredicate dict params then some (s.after i s.store (.returned .granted none))
    else
      match (runQuery .cachedAgent interface params.application.id params.feature).exec s.store with
      | (.ok (query, some answer), store) =>
        some (s.after i (interface.destroy query store) (.returned answer none))
      | (.ok (query, none), store) => some (s.after i store (.missed query))
      | (.error e, store) => some (s.after i store (.threw e))
  | .missed query =>
    match reaction with
    | .ok answer => some (s.after i s.store (.prompted query answer))
    | .error e => some (s.after i (interface.destroy query s.store) (.threw e))
  | .prompted query answer =>
    match (addAnswer interface query
        ⟨params.application.id, params.feature, now, answer⟩).exec s.store with
    | (.ok (), store) => some (s.after i store (.returned answer store.db.requests.getLast?))
    | (.error e, store) => some (s.after i store (.threw e))
  | .returned .. => none
  | .threw _ => none

variable (dict : Dictionary) (requests : ι → RequestParameters)

/-- One step. -/
def step (s : State ι) : Label ι → Option (State ι)
  | .request i reaction now => s.next dict i (formatted (requests i)) reaction now
  | .removeApplication id =>
    some { s with store := ((interface.removeApplication id).exec s.store).2 }
  | .reset => some { s with store := (interface.reset.exec s.store).2 }

/-! ### One request after the other -/

/-- What the table of decisions goes through: a request is answered, with what the user would say if
they were prompted, or fails, or decisions are taken away. -/
inductive Moment (ι : Type) where
  | answered (i : ι) (reaction : Answer)
  | failed (i : ι) (e : Exception)
  | removedApplication (id : String)
  | reset

/-- The decisions by application and feature, and what each request came to. -/
structure Outcomes (ι : Type) where
  decision : String → Feature → Option Answer
  result : ι → Option (Except Exception Answer)

/-- No request has come yet. -/
def Outcomes.start (store : Sqlite.Store) : Outcomes ι := ⟨decisions store, fun _ => none⟩

/-- A request comes to a result. -/
def Outcomes.finish (o : Outcomes ι) (i : ι) (result : Except Exception Answer) : Outcomes ι :=
  { o with result := Function.update o.result i (some result) }

/-- One moment. A request that is not white-listed is answered by what was decided, or else by the
user, whose answer becomes the decision. No request comes to two results. -/
def Outcomes.step (o : Outcomes ι) : Moment ι → Option (Outcomes ι)
  | .answered i reaction =>
    if (o.result i).isSome then none
    else if whiteListingPredicate dict (formatted (requests i)) then
      some (o.finish i (.ok .granted))
    else
      match o.decision (formatted (requests i)).application.id (requests i).feature with
      | some answer => some (o.finish i (.ok answer))
      | none => some
          { o.finish i (.ok reaction) with
            decision := fun id feature =>
              if (formatted (requests i)).application.id = id ∧ (requests i).feature = feature
              then some reaction else o.decision id feature }
  | .failed i e => if (o.result i).isSome then none else some (o.finish i (.error e))
  | .removedApplication id => some { o with
      decision := fun other feature => if other = id then none else o.decision other feature }
  | .reset => some { o with decision := fun _ _ => none }

/-- The moment of a request that has come to a result. -/
def ending (i : ι) : Option (Except Exception Answer) → List (Moment ι)
  | some (.ok answer) => [.answered i answer]
  | some (.error e) => [.failed i e]
  | none => []

/-- A request takes effect with the step that it ends with. A removal takes effect unless it
throws. -/
def moments (s : State ι) : Label ι → List (Moment ι)
  | .request i reaction now =>
    ending i ((step dict requests s (.request i reaction now)).bind fun t => result (t.phases i))
  | .removeApplication id =>
    match ((interface.removeApplication id).exec s.store).1 with
    | .ok _ => [.removedApplication id]
    | .error _ => []
  | .reset =>
    match (interface.reset.exec s.store).1 with
    | .ok _ => [.reset]
    | .error _ => []

/-- What the requests came to and what is decided. -/
structure Agrees (o : Outcomes ι) (s : State ι) : Prop where
  decision : o.decision = decisions s.store
  result : ∀ i, o.result i = result (s.phases i)

/-- Requests for the same feature of the same application, in whatever version. -/
def Alike (i j : ι) : Prop :=
  (formatted (requests i)).application.id = (formatted (requests j)).application.id ∧
    (requests i).feature = (requests j).feature

instance (i j : ι) : Decidable (Alike requests i j) := inferInstanceAs (Decidable (_ ∧ _))

/-- A request that is looked up has an application id and a feature that can be stored. -/
def Proper : Prop :=
  ∀ i, WhiteListed dict (requests i).application.id ∨
    (requests i).application.id ≠ "" ∧ Storable (requests i).feature

/-- No request starts while one for the same feature of the same application waits, and an
application that is removed has an id. -/
def Apart (s : State ι) : Label ι → Prop
  | .request i _ _ => s.phases i = .idle → ∀ j, Alike requests i j → (s.phases j).waiting = false
  | .removeApplication id => id ≠ ""
  | .reset => True

instance (phase : Phase) : Decidable (phase = .idle) :=
  match phase with
  | .idle => isTrue rfl
  | .missed _ | .prompted .. | .returned .. | .threw _ => isFalse nofun

instance [Fintype ι] (s : State ι) : (l : Label ι) → Decidable (Apart requests s l)
  | .request i _ _ => inferInstanceAs (Decidable (s.phases i = .idle →
    ∀ j, Alike requests i j → (s.phases j).waiting = false))
  | .removeApplication id => inferInstanceAs (Decidable (id ≠ ""))
  | .reset => isTrue trivial

/-! ### What a step does -/

/-- The rows and the engine are as they were. -/
structure Same (store store' : Sqlite.Store) : Prop where
  requests : store'.db.requests = store.db.requests
  engine : store'.db.engine = store.db.engine

/-- What the next step of a request with formatted parameters does. -/
inductive Takes (s : State ι) (i : ι) (params : RequestParameters)
    (reaction : Except Exception Answer) (now : Timestamp) : State ι → Prop where
  | listed (idle : s.phases i = .idle) (granted : whiteListingPredicate dict params = true) :
      Takes s i params reaction now (s.after i s.store (.returned .granted none))
  | found (row : Row) (store : Sqlite.Store) (idle : s.phases i = .idle)
      (unlisted : whiteListingPredicate dict params = false)
      (newest : row ∈ (s.store.db.matching params.application.id params.feature).head?)
      (same : Same s.store store) :
      Takes s i params reaction now (s.after i store (.returned row.request.answer none))
  | missed (query : Sqlite.QueryId) (store : Sqlite.Store) (idle : s.phases i = .idle)
      (unlisted : whiteListingPredicate dict params = false)
      (nothing : s.store.db.matching params.application.id params.feature = [])
      (same : Same s.store store) :
      Takes s i params reaction now (s.after i store (.missed query))
  | prompted (query : Sqlite.QueryId) (answer : Answer) (missed : s.phases i = .missed query)
      (reacted : reaction = .ok answer) :
      Takes s i params reaction now (s.after i s.store (.prompted query answer))
  | added (query : Sqlite.QueryId) (answer : Answer) (store : Sqlite.Store) (rowid : Int64)
      (prompted : s.phases i = .prompted query answer)
      (requests : store.db.requests = s.store.db.requests ++
        [Row.ofRequest rowid ⟨params.application.id, params.feature, now, answer⟩])
      (engine : store.db.engine = s.store.db.engine) :
      Takes s i params reaction now (s.after i store (.returned answer
        (some (Row.ofRequest rowid ⟨params.application.id, params.feature, now, answer⟩))))
  | threw (e : Exception) (store : Sqlite.Store) (pending : result (s.phases i) = none)
      (same : Same s.store store) : Takes s i params reaction now (s.after i store (.threw e))

variable {dict requests} {s t : State ι} {i j : ι} {params : RequestParameters}
  {reaction : Except Exception Answer} {now : Timestamp} {o : Outcomes ι}

/-- The request that takes a step is in its new phase. -/
@[simp] theorem State.after_self (s : State ι) (i : ι) (store : Sqlite.Store) (phase : Phase) :
    (s.after i store phase).phases i = phase := Function.update_self ..

/-- All others stay in theirs. -/
theorem State.after_of_ne (s : State ι) (store : Sqlite.Store) (phase : Phase) (hji : j ≠ i) :
    (s.after i store phase).phases j = s.phases j := Function.update_of_ne hji ..

/-- What holds of the new phase, and of the others as they were, holds of all phases. -/
theorem State.after_forall {store : Sqlite.Store} {phase : Phase} (P : ι → Phase → Prop)
    (hself : P i phase) (hothers : ∀ j ≠ i, P j (s.phases j)) (j : ι) :
    P j ((s.after i store phase).phases j) := by
  by_cases hji : j = i
  · subst hji
    rw [State.after_self]
    exact hself
  · rw [s.after_of_ne store phase hji]
    exact hothers j hji

/-- The store is the new one. -/
@[simp] theorem State.after_store (s : State ι) (i : ι) (store : Sqlite.Store) (phase : Phase) :
    (s.after i store phase).store = store := rfl

private theorem same_of_reads {store store' : Sqlite.Store} (h : OnlyReads store store') :
    Same store store' := ⟨h.requests, h.engine⟩

/-- Adding an answer adds its row, or throws and leaves the rows alone. -/
private theorem addAnswer_rows (store : Sqlite.Store) {request : Request}
    (hid : request.origin ≠ "") (query : Sqlite.QueryId) :
    (∃ store' rowid, (addAnswer interface query request).exec store = (.ok (), store') ∧
      store'.db.requests = store.db.requests ++ [Row.ofRequest rowid request] ∧
      store'.db.engine = store.db.engine) ∨
    ∃ e store', (addAnswer interface query request).exec store = (.error e, store') ∧
      Same store store' := by
  rcases store.add_cases request with ⟨_, r, h, honly, _, hreq⟩ | ⟨e, r, h, honly, hreq, _⟩
  · have hadd : (interface.add request).exec store = (.ok (), r) := h
    rw [Sqlite.Store.addedRow_eq store hid] at hreq
    refine .inl ⟨interface.destroy query r, _, ?_, hreq, honly.engine⟩
    rw [addAnswer, Fallible.exec_guarded, hadd]
  · have hadd : (interface.add request).exec store = (.error e, r) := h
    refine .inr ⟨e, interface.destroy query r, ?_, hreq, honly.engine⟩
    rw [addAnswer, Fallible.exec_guarded, hadd]

/-- All that a step of a request can do. -/
theorem next_takes (hid : params.application.id ≠ "")
    (hnext : s.next dict i params reaction now = some t) :
    Takes dict s i params reaction now t := by
  rw [State.next] at hnext
  split at hnext
  next hidle =>
    split at hnext
    next hlisted =>
      cases Option.some.inj hnext
      exact .listed hidle hlisted
    next hlisted =>
      rw [Bool.not_eq_true] at hlisted
      rcases Cache.Race.runQuery_cases .cachedAgent s.store hid with
        ⟨query, store, h, hreads⟩ | ⟨e, store, h, hreads⟩
      · rw [h] at hnext
        rw [Cache.Race.matching] at hnext
        cases hrows : s.store.db.matching params.application.id params.feature with
        | nil =>
          rw [hrows] at hnext
          cases Option.some.inj hnext
          exact .missed query store hidle hlisted hrows (same_of_reads hreads)
        | cons row rest =>
          rw [hrows] at hnext
          cases Option.some.inj hnext
          refine .found row _ hidle hlisted (by simp [hrows]) ?_
          exact same_of_reads (hreads.trans (OnlyReads.destroy query store))
      · rw [h] at hnext
        cases Option.some.inj hnext
        exact .threw e store (by rw [hidle]; rfl) (same_of_reads hreads)
  next query hmissed =>
    cases reaction with
    | ok answer =>
      cases Option.some.inj hnext
      exact .prompted query answer hmissed rfl
    | error e =>
      cases Option.some.inj hnext
      exact .threw e _ (by rw [hmissed]; rfl) (same_of_reads (OnlyReads.destroy query s.store))
  next query answer hprompted =>
    rcases addAnswer_rows s.store (show Request.origin
      ⟨params.application.id, params.feature, now, answer⟩ ≠ "" from hid) query with
      ⟨store, rowid, h, hreq, hengine⟩ | ⟨e, store, h, hsame⟩
    · rw [h] at hnext
      cases Option.some.inj hnext
      rw [hreq, List.getLast?_concat]
      exact .added query answer store rowid hprompted hreq hengine
    · rw [h] at hnext
      cases Option.some.inj hnext
      exact .threw e store (by rw [hprompted]; rfl) hsame
  next => cases hnext
  next => cases hnext

omit [DecidableEq ι] in
/-- Whatever is requested has an application id. -/
theorem Proper.formatted_ne_empty (hproper : Proper dict requests) (i : ι) :
    (formatted (requests i)).application.id ≠ "" := by
  apply Decisions.format_ne_empty
  rcases hproper i with (h | ⟨-, h | ⟨version, h, -⟩⟩) | ⟨h, -⟩
  · rw [h]
    decide
  · rw [h]
    decide
  · rw [h]
    intro hempty
    have hlength := congrArg String.length hempty
    simp at hlength
  · exact h

omit [DecidableEq ι] in
/-- What is not white-listed is stored as it is. -/
theorem Proper.storable (hproper : Proper dict requests)
    (hunlisted : whiteListingPredicate dict (formatted (requests i)) = false) :
    Storable (requests i).feature := by
  rcases hproper i with h | ⟨-, h⟩
  · rw [(WhiteList.whiteListingPredicate_iff dict _).mpr h] at hunlisted
    cases hunlisted
  · exact h

/-- The agent of a daemon without reports, whose prompt ends with the reaction. -/
def agent (dict : Dictionary) (reaction : Except Exception Answer) (now : Timestamp) :
    Agent Sqlite.Store :=
  decorate dict (CachedAgent.authenticateRequestWithParameters
    (fun _ => Fallible.ofFn fun store => (reaction, store)) interface CachedAgent.Reporter.silent
    (pure now))

private theorem exec_agent_listed (reaction : Except Exception Answer) (now : Timestamp)
    (hlisted : whiteListingPredicate dict (formatted params) = true) (store : Sqlite.Store) :
    (agent dict reaction now params).exec store = (.ok .granted, store) := by
  rw [agent, WhiteList.decorate_of_whiteListed
    ((WhiteList.whiteListingPredicate_iff dict params).mp hlisted)]
  rfl

private theorem exec_agent_unlisted (reaction : Except Exception Answer) (now : Timestamp)
    (hlisted : ¬whiteListingPredicate dict (formatted params) = true) (store : Sqlite.Store) :
    (agent dict reaction now params).exec store = (inSteps .cachedAgent
      (fun _ => Fallible.ofFn fun store => (reaction, store)) interface now
        (formatted params)).exec store := by
  rw [agent, WhiteList.decorate_of_not_whiteListed
    (mt (WhiteList.whiteListingPredicate_iff dict params).mpr hlisted), authenticate_inSteps]

/-- Steps that leave a request at its result, and others where they were. -/
private theorem exists_ends {ended : Except Exception Answer × Sqlite.Store} (calls : Nat)
    (store : Sqlite.Store) (phase : Phase) (outcome : Except Exception Answer)
    (hrun : Transition.run (step dict requests) s
      (List.replicate calls (.request i reaction now)) = some (s.after i store phase))
    (hresult : result phase = some outcome) (hended : ended = (outcome, store)) :
    ∃ calls t outcome, Transition.run (step dict requests) s
        (List.replicate calls (.request i reaction now)) = some t ∧
      (∀ j ≠ i, t.phases j = s.phases j) ∧ result (t.phases i) = some outcome ∧
      ended = (outcome, t.store) := by
  refine ⟨calls, _, outcome, hrun, fun j hji => s.after_of_ne store phase hji, ?_, hended⟩
  rw [State.after_self, hresult]

/-- A request that nobody comes in between of goes as the agent of the daemon says. -/
theorem alone_run (dict : Dictionary) (requests : ι → RequestParameters)
    (hidle : s.phases i = .idle) (reaction : Except Exception Answer) (now : Timestamp) :
    ∃ calls t outcome, Transition.run (step dict requests) s
        (List.replicate calls (.request i reaction now)) = some t ∧
      (∀ j ≠ i, t.phases j = s.phases j) ∧ result (t.phases i) = some outcome ∧
      (agent dict reaction now (requests i)).exec s.store = (outcome, t.store) := by
  by_cases hlisted : whiteListingPredicate dict (formatted (requests i)) = true
  · refine exists_ends 1 s.store (.returned .granted none) (.ok .granted) ?_ rfl
      (exec_agent_listed reaction now hlisted s.store)
    simp [step, State.next, hidle, hlisted, Transition.run_cons]
  rw [exec_agent_unlisted reaction now hlisted, inSteps, Fallible.exec_bind]
  rcases hquery : (runQuery .cachedAgent interface (formatted (requests i)).application.id
      (formatted (requests i)).feature).exec s.store with ⟨e | ⟨query, found⟩, store⟩
  · refine exists_ends 1 store (.threw e) (.error e) ?_ rfl rfl
    simp [step, State.next, hidle, hlisted, hquery, Transition.run_cons]
  cases found with
  | some answer =>
    refine exists_ends 1 (interface.destroy query store) (.returned answer none) (.ok answer) ?_
      rfl rfl
    simp [step, State.next, hidle, hlisted, hquery, Transition.run_cons]
  | none =>
    have hmissed : step dict requests s (.request i reaction now) =
        some (s.after i store (.missed query)) := by
      simp [step, State.next, hidle, hlisted, hquery]
    cases reaction with
    | error e =>
      refine exists_ends 2 (interface.destroy query store) (.threw e) (.error e) ?_ rfl rfl
      rw [List.replicate_succ, Transition.run_cons, hmissed]
      simp [step, State.next, State.after, Transition.run_cons]
    | ok answer =>
      have hprompted : step dict requests (s.after i store (.missed query))
          (.request i (.ok answer) now) = some (s.after i store (.prompted query answer)) := by
        simp [step, State.next, State.after]
      rcases hadd : (addAnswer interface query ⟨(formatted (requests i)).application.id,
          (formatted (requests i)).feature, now, answer⟩).exec store with ⟨e | ⟨⟩, store'⟩
      · refine exists_ends 3 store' (.threw e) (.error e) ?_ rfl ?_
        · rw [List.replicate_succ, Transition.run_cons, hmissed, Option.bind_some,
            List.replicate_succ, Transition.run_cons, hprompted]
          simp [step, State.next, State.after, hadd, Transition.run_cons]
        · simp [askAgent, hadd]
          rfl
      · refine exists_ends 3 store' (.returned answer store'.db.requests.getLast?) (.ok answer) ?_
          rfl ?_
        · rw [List.replicate_succ, Transition.run_cons, hmissed, Option.bind_some,
            List.replicate_succ, Transition.run_cons, hprompted]
          simp [step, State.next, State.after, hadd, Transition.run_cons]
        · simp [askAgent, hadd]
          rfl

/-! ### Requests that wait -/

/-- What is known about the requests that wait for the user or with an answer: they are not
white-listed, nothing is decided for them, and no two of them are alike. -/
structure Waits (dict : Dictionary) (requests : ι → RequestParameters) (s : State ι) : Prop where
  unlisted : ∀ i, (s.phases i).waiting → whiteListingPredicate dict (formatted (requests i)) = false
  undecided : ∀ i, (s.phases i).waiting →
    decisions s.store (formatted (requests i)).application.id (requests i).feature = none
  alone : ∀ i j, (s.phases i).waiting → (s.phases j).waiting → Alike requests i j → i = j

omit [DecidableEq ι] in
/-- Nobody starts to wait, and nothing is decided for those who go on waiting. -/
private theorem Waits.mono (h : Waits dict requests s)
    (hphases : ∀ j, (t.phases j).waiting → (s.phases j).waiting)
    (hundecided : ∀ j, (t.phases j).waiting →
      decisions s.store (formatted (requests j)).application.id (requests j).feature = none →
      decisions t.store (formatted (requests j)).application.id (requests j).feature = none) :
    Waits dict requests t where
  unlisted j hj := h.unlisted j (hphases j hj)
  undecided j hj := hundecided j hj (h.undecided j (hphases j hj))
  alone j k hj hk := h.alone j k (hphases j hj) (hphases k hk)

/-- The phases after a step of one request. -/
private theorem waiting_after {store : Sqlite.Store} {phase : Phase}
    (hphase : phase.waiting → (s.phases i).waiting) (j : ι)
    (hj : ((s.after i store phase).phases j).waiting) : (s.phases j).waiting :=
  State.after_forall (fun j phase => phase.waiting → (s.phases j).waiting) hphase
    (fun _ _ hj => hj) j hj

private theorem decisions_same {store store' : Sqlite.Store} (h : Same store store') :
    decisions store' = decisions store := Decisions.decisions_eq h.requests h.engine

omit [DecidableEq ι] in
/-- Where nothing is decided, nothing matches. -/
private theorem matching_nil {store : Sqlite.Store} {id : String} {feature : Feature}
    (h : decisions store id feature = none) : store.db.matching id feature = [] := by
  rw [Decisions.decisions, Option.map_eq_none_iff, List.head?_eq_none_iff] at h
  exact h

/-- An added answer decides for the requests that are alike. -/
private theorem decisions_after_added (params : RequestParameters) {store store' : Sqlite.Store}
    {rowid : Int64} {answer : Answer} (hfeature : Storable params.feature)
    (hnone : decisions store params.application.id params.feature = none)
    (hreq : store'.db.requests = store.db.requests ++
      [Row.ofRequest rowid ⟨params.application.id, params.feature, now, answer⟩])
    (hengine : store'.db.engine = store.db.engine) :
    decisions store' = fun id feature =>
      if params.application.id = id ∧ params.feature = feature then some answer
      else decisions store id feature := by
  let call : Cache.Call RequestParameters := ⟨params, .ok answer, id, now⟩
  funext id feature
  exact Decisions.decisions_added (show Storable call.params.feature from hfeature)
    (matching_nil hnone) hreq hengine id feature

/-- A step of a request keeps what is known about those that wait, if the request is apart when it
starts. -/
private theorem waits_takes (hproper : Proper dict requests) (h : Waits dict requests s)
    (hapart : s.phases i = .idle → ∀ j, Alike requests i j → (s.phases j).waiting = false)
    (htakes : Takes dict s i (formatted (requests i)) reaction now t) : Waits dict requests t := by
  cases htakes with
  | listed hidle hlisted =>
    exact h.mono (waiting_after (by simp [Phase.waiting])) fun _ _ hnone => hnone
  | found row store hidle hunlisted hnewest hsame =>
    refine h.mono (waiting_after (by simp [Phase.waiting])) fun j _ hnone => ?_
    exact (congrFun (congrFun (decisions_same hsame) _) _).trans hnone
  | missed query store hidle hunlisted hnothing hsame =>
    have hdecisions : decisions (s.after i store (.missed query)).store = decisions s.store :=
      decisions_same hsame
    have hold : ∀ j ≠ i, ((s.after i store (.missed query)).phases j).waiting →
        (s.phases j).waiting := by
      intro j hji hwaiting
      rwa [s.after_of_ne store _ hji] at hwaiting
    refine ⟨fun j hj => ?_, fun j hj => ?_, fun j k hj hk halike => ?_⟩
    · by_cases hji : j = i
      · rw [hji]
        exact hunlisted
      · exact h.unlisted j (hold j hji hj)
    · rw [hdecisions]
      by_cases hji : j = i
      · have hmatching : s.store.db.matching (formatted (requests i)).application.id
          (requests i).feature = [] := hnothing
        rw [hji, Decisions.decisions, hmatching]
        rfl
      · exact h.undecided j (hold j hji hj)
    · by_cases hji : j = i
      · by_cases hki : k = i
        · rw [hji, hki]
        · subst hji
          have hwaiting := hold k hki hk
          rw [hapart hidle k halike] at hwaiting
          cases hwaiting
      · by_cases hki : k = i
        · subst hki
          have hwaiting := hold j hji hj
          rw [hapart hidle j ⟨halike.1.symm, halike.2.symm⟩] at hwaiting
          cases hwaiting
        · exact h.alone j k (hold j hji hj) (hold k hki hk) halike
  | prompted query answer hmissed hreacted =>
    refine h.mono (waiting_after fun _ => ?_) fun _ _ hnone => hnone
    rw [hmissed]
    rfl
  | added query answer store rowid hprompted hreq hengine =>
    have hwaiting : (s.phases i).waiting := by
      rw [hprompted]
      rfl
    refine h.mono (waiting_after (by simp [Phase.waiting])) fun j hj hnone => ?_
    have hji : j ≠ i := by
      rintro rfl
      simp [Phase.waiting] at hj
    have hj' : (s.phases j).waiting := waiting_after (by simp [Phase.waiting]) j hj
    have hdecisions := decisions_after_added (formatted (requests i))
      (hproper.storable (h.unlisted i hwaiting)) (h.undecided i hwaiting) hreq hengine
    have hother : ¬ ((formatted (requests i)).application.id =
        (formatted (requests j)).application.id ∧ (requests i).feature = (requests j).feature) :=
      fun halike => hji (h.alone i j hwaiting hj' halike).symm
    rw [State.after_store, hdecisions]
    exact (if_neg hother).trans hnone
  | threw e store hpending hsame =>
    refine h.mono (waiting_after (by simp [Phase.waiting])) fun j _ hnone => ?_
    exact (congrFun (congrFun (decisions_same hsame) _) _).trans hnone

/-! ### One after the other -/

/-- A request that comes to a result does so in the table, too. -/
private theorem agrees_finish (h : Agrees o s) {outcome : Except Exception Answer}
    {decision : String → Feature → Option Answer} {store : Sqlite.Store} {phase : Phase}
    (hresult : result phase = some outcome) (hdecision : decision = decisions store) :
    Agrees { o.finish i outcome with decision } (s.after i store phase) where
  decision := hdecision
  result := by
    refine State.after_forall (fun j phase => (o.finish i outcome).result j = result phase) ?_ ?_
    · rw [hresult]
      exact Function.update_self ..
    · intro j hji
      rw [← h.result j]
      exact Function.update_of_ne hji ..

/-- A request that goes on waiting does nothing to the table. -/
private theorem agrees_waiting (h : Agrees o s) {store : Sqlite.Store} {phase : Phase}
    (hbefore : result (s.phases i) = none) (hresult : result phase = none)
    (hsame : decisions store = decisions s.store) : Agrees o (s.after i store phase) where
  decision := h.decision.trans hsame.symm
  result := State.after_forall (fun j phase => o.result j = result phase)
    (by rw [hresult, h.result, hbefore]) fun j _ => h.result j

/-- What a step of a request amounts to, the table can do. -/
private theorem agrees_takes (hproper : Proper dict requests) (h : Agrees o s)
    (hwaits : Waits dict requests s)
    (htakes : Takes dict s i (formatted (requests i)) reaction now t) :
    ∃ o', Transition.run (Outcomes.step dict requests) o (ending i (result (t.phases i))) =
      some o' ∧ Agrees o' t := by
  have hpending : ∀ {phase : Phase}, s.phases i = phase → result phase = none →
      (o.result i).isSome = false := by
    intro phase hphase hnone
    rw [h.result, hphase, hnone]
    rfl
  cases htakes with
  | listed hidle hlisted =>
    refine ⟨_, ?_, agrees_finish h rfl h.decision⟩
    rw [State.after_self, result, ending, Transition.run_singleton, Outcomes.step,
      if_neg (by simp [hpending hidle rfl]), if_pos hlisted]
    rfl
  | found row store hidle hunlisted hnewest hsame =>
    have hdecided : o.decision (formatted (requests i)).application.id (requests i).feature =
        some row.request.answer := by
      rw [h.decision]
      exact congrArg (Option.map fun row => row.request.answer) hnewest
    refine ⟨_, ?_, agrees_finish h rfl (h.decision.trans (decisions_same hsame).symm)⟩
    rw [State.after_self, result, ending, Transition.run_singleton, Outcomes.step,
      if_neg (by simp [hpending hidle rfl]), if_neg (by simp [hunlisted]), hdecided]
    rfl
  | missed query store hidle hunlisted hnothing hsame =>
    rw [State.after_self]
    exact ⟨o, rfl, agrees_waiting h (by rw [hidle]; rfl) rfl (decisions_same hsame)⟩
  | prompted query answer hmissed hreacted =>
    rw [State.after_self]
    exact ⟨o, rfl, agrees_waiting h (by rw [hmissed]; rfl) rfl rfl⟩
  | added query answer store rowid hprompted hreq hengine =>
    have hwaiting : (s.phases i).waiting := by
      rw [hprompted]
      rfl
    have hunlisted := hwaits.unlisted i hwaiting
    have hundecided := hwaits.undecided i hwaiting
    have hdecisions := decisions_after_added (formatted (requests i)) (hproper.storable hunlisted)
      hundecided hreq hengine
    rw [← h.decision] at hundecided hdecisions
    refine ⟨_, ?_, agrees_finish h rfl hdecisions.symm⟩
    rw [State.after_self, result, ending, Transition.run_singleton, Outcomes.step,
      if_neg (by simp [hpending hprompted rfl]), if_neg (by simp [hunlisted]), hundecided]
    rfl
  | threw e store hpending' hsame =>
    refine ⟨_, ?_, agrees_finish h rfl (h.decision.trans (decisions_same hsame).symm)⟩
    rw [State.after_self, result, ending, Transition.run_singleton, Outcomes.step,
      if_neg (by simp [hpending rfl hpending'])]
    rfl

/-- What a step amounts to, the table can do. -/
theorem agrees_step (hproper : Proper dict requests) (h : Agrees o s)
    (hwaits : Waits dict requests s) {l : Label ι} (hapart : Apart requests s l)
    (hstep : step dict requests s l = some t) :
    ∃ o', Transition.run (Outcomes.step dict requests) o (moments dict requests s l) = some o' ∧
      Agrees o' t ∧ Waits dict requests t := by
  cases l with
  | request i reaction now =>
    have htakes := next_takes (hproper.formatted_ne_empty i) hstep
    obtain ⟨o', hrun, hagrees⟩ := agrees_takes hproper h hwaits htakes
    refine ⟨o', ?_, hagrees, waits_takes hproper hwaits hapart htakes⟩
    rw [moments, hstep]
    exact hrun
  | removeApplication id =>
    cases hstep
    rcases s.store.removeApplication_cases hapart with
      ⟨store, hexec, hengine, hreq⟩ | ⟨e, store, hexec, hengine, hreq⟩
    · have hremove : (interface.removeApplication id).exec s.store = (.ok (), store) := hexec
      have hdecisions := Decisions.decisions_removed hreq hengine
      rw [moments, hremove]
      refine ⟨_, rfl, ⟨?_, h.result⟩, hwaits.mono (fun _ hj => hj) fun j _ hnone => ?_⟩
      · funext other feature
        rw [h.decision]
        exact (hdecisions other feature).symm
      · rw [hdecisions, hnone, ite_self]
    · have hremove : (interface.removeApplication id).exec s.store = (.error e, store) := hexec
      have hdecisions : decisions store = decisions s.store := Decisions.decisions_eq hreq hengine
      rw [moments, hremove]
      refine ⟨o, rfl, ⟨h.decision.trans hdecisions.symm, h.result⟩,
        hwaits.mono (fun _ hj => hj) fun j _ hnone => ?_⟩
      rw [hdecisions, hnone]
  | reset =>
    cases hstep
    rcases s.store.reset_cases with
      ⟨store, hexec, hengine, hreq⟩ | ⟨e, store, hexec, hengine, hreq⟩
    · have hreset : interface.reset.exec s.store = (.ok (), store) := hexec
      have hdecisions := Decisions.decisions_reset hreq
      rw [moments, hreset]
      refine ⟨_, rfl, ⟨?_, h.result⟩, hwaits.mono (fun _ hj => hj) fun j _ _ => hdecisions _ _⟩
      funext id feature
      exact (hdecisions id feature).symm
    · have hreset : interface.reset.exec s.store = (.error e, store) := hexec
      have hdecisions : decisions store = decisions s.store := Decisions.decisions_eq hreq hengine
      rw [moments, hreset]
      refine ⟨o, rfl, ⟨h.decision.trans hdecisions.symm, h.result⟩,
        hwaits.mono (fun _ hj => hj) fun j _ hnone => ?_⟩
      rw [hdecisions, hnone]

/-- In every run of any number of proper requests and removals, whatever calls of SQLite fail and
however prompts end, requests that are apart are answered as if each of them took effect with the
step that it ends with, and each removal at once, if it does not throw. -/
theorem linearizable_run {store : Sqlite.Store} {ls : List (Label ι)}
    (hproper : Proper dict requests)
    (hapart : Transition.Meets (step dict requests) (Apart requests) (start store) ls)
    (hrun : Transition.run (step dict requests) (start store) ls = some t) :
    ∃ o, Transition.run (Outcomes.step dict requests) (Outcomes.start store)
        (Transition.amounts (step dict requests) (moments dict requests) (start store) ls) =
          some o ∧ Agrees o t := by
  have hstart : Agrees (Outcomes.start store) (start store : State ι) := ⟨rfl, fun _ => rfl⟩
  have hwaits : Waits dict requests (start store) :=
    ⟨by simp [start, Phase.waiting], by simp [start, Phase.waiting], by simp [start, Phase.waiting]⟩
  obtain ⟨o, ho, hagrees, -⟩ := Transition.amounts_run
    (fun o s l t hs hapart hstep => agrees_step hproper hs.1 hs.2 hapart hstep)
    ⟨hstart, hwaits⟩ hapart hrun
  exact ⟨o, ho, hagrees⟩

/-- Two versions of an application request a feature of it, and one of them another one. -/
def interleaved : Fin 3 → RequestParameters
  | 0 => Decisions.requestOf "1.0" ⟨1⟩
  | 1 => Decisions.requestOf "2.0" ⟨1⟩
  | 2 => Decisions.requestOf "1.0" ⟨2⟩

/-- While the first request waits for the user, the last one is answered. -/
def promptedTwice : List (Label (Fin 3)) :=
  [.request 0 (.ok .granted) 5, .request 2 (.ok .denied) 6, .request 2 (.ok .denied) 6,
    .request 2 (.ok .denied) 6, .request 0 (.ok .granted) 7]

/-- What a request returned. -/
private theorem returned_of_result {phase : Phase} {answer : Answer}
    (h : result phase = some (.ok answer)) : ∃ added, phase = .returned answer added := by
  cases phase with
  | returned answer' added =>
    cases h
    exact ⟨added, rfl⟩
  | _ => cases h

private theorem proper_interleaved : Proper Decisions.sockets interleaved :=
  fun i => .inr (by revert i; decide)

/-- The last request is answered first, and the second one by what was decided for the first. -/
theorem linearizable_run_interleaved : ∃ o,
    Transition.run (Outcomes.step Decisions.sockets interleaved)
      (Outcomes.start (Sqlite.Store.empty Sqlite.Engine.stable))
      [.answered 2 .denied, .answered 0 .granted, .answered 1 .granted] = some o ∧
    o.result 0 = some (.ok .granted) ∧ o.result 1 = some (.ok .granted) ∧
    o.result 2 = some (.ok .denied) := by
  have hrun : Transition.run (step Decisions.sockets interleaved)
      (start (Sqlite.Store.empty Sqlite.Engine.stable))
      (promptedTwice ++ [.request 0 (.ok .granted) 8, .request 1 (.ok .denied) 9]) = some _ := rfl
  have hapart : Transition.Meets (step Decisions.sockets interleaved) (Apart interleaved)
      (start (Sqlite.Store.empty Sqlite.Engine.stable))
      (promptedTwice ++ [.request 0 (.ok .granted) 8, .request 1 (.ok .denied) 9]) := by
    decide +kernel
  obtain ⟨o, ho, hagrees⟩ := linearizable_run proper_interleaved hapart hrun
  exact ⟨o, ho, (hagrees.result 0).trans rfl, (hagrees.result 1).trans rfl,
    (hagrees.result 2).trans rfl⟩

/-! ### Where answers come from -/

variable (dict requests) in
/-- In a run the user was prompted for a feature of an application, and gave an answer. -/
def Said (store : Sqlite.Store) (ls : List (Label ι)) (id : String) (feature : Feature)
    (answer : Answer) : Prop :=
  ∃ before after i query now s, ls = before ++ .request i (.ok answer) now :: after ∧
    Transition.run (step dict requests) (start store) before = some s ∧
    s.phases i = .missed query ∧ About id feature (formatted (requests i))

/-- What was said stays said. -/
private theorem Said.concat {store : Sqlite.Store} {ls : List (Label ι)} {id : String}
    {feature : Feature} {answer : Answer} (h : Said dict requests store ls id feature answer)
    (l : Label ι) : Said dict requests store (ls ++ [l]) id feature answer := by
  obtain ⟨before, after, i, query, now, s, rfl, hrun, hmissed, habout⟩ := h
  exact ⟨before, after ++ [l], i, query, now, s, by simp, hrun, hmissed, habout⟩

variable (dict requests) in
/-- The user said it in the run, or the database had it from before. -/
def Stems (store : Sqlite.Store) (ls : List (Label ι)) (id : String) (feature : Feature)
    (answer : Answer) : Prop :=
  Said dict requests store ls id feature answer ∨
    ∃ row ∈ store.db.matching id feature, row.request.answer = answer

/-- Whatever is in the database, about to be added or returned stems from somewhere. Only requests
that are not white-listed wait. -/
structure Sourced (dict : Dictionary) (requests : ι → RequestParameters) (store : Sqlite.Store)
    (ls : List (Label ι)) (s : State ι) : Prop where
  run : Transition.run (step dict requests) (start store) ls = some s
  unlisted : ∀ i, (s.phases i).waiting → whiteListingPredicate dict (formatted (requests i)) = false
  stored : ∀ row ∈ s.store.db.requests, row ∈ store.db.requests ∨ ∃ rowid request,
    row = Row.ofRequest rowid request ∧ Storable request.feature ∧
      Said dict requests store ls request.origin request.feature request.answer
  prompted : ∀ i query answer, s.phases i = .prompted query answer →
    Said dict requests store ls (formatted (requests i)).application.id (requests i).feature answer
  returned : ∀ i answer added, s.phases i = .returned answer added →
    whiteListingPredicate dict (formatted (requests i)) = true ∨
      Stems dict requests store ls (formatted (requests i)).application.id (requests i).feature
        answer

/-- A removal leaves some of the rows, whatever id it is given. -/
private theorem removeApplication_subset (store : Sqlite.Store) (id : String) :
    ((Sqlite.Store.removeApplication id).exec store).2.db.requests ⊆ store.db.requests := by
  have hafter := Sqlite.Store.Change.after_eq (.removeApplication id) store
  rw [Sqlite.Store.Change.after] at hafter
  change ((Sqlite.Store.removeApplication id).exec store).2.db.requests = _ at hafter
  rw [hafter]
  split
  · exact List.filter_subset_self ..
  · exact List.Subset.refl _

private theorem reset_subset (store : Sqlite.Store) :
    (Sqlite.Store.reset.exec store).2.db.requests ⊆ store.db.requests := by
  rcases store.reset_cases with ⟨t, h, -, hreq⟩ | ⟨e, t, h, -, hreq⟩
  · rw [h, hreq]
    exact List.nil_subset _
  · rw [h, hreq]
    exact List.Subset.refl _

section Sources

variable {store : Sqlite.Store} {ls : List (Label ι)}

private theorem Stems.concat {id : String} {feature : Feature} {answer : Answer}
    (h : Stems dict requests store ls id feature answer) (l : Label ι) :
    Stems dict requests store (ls ++ [l]) id feature answer :=
  h.imp_left fun hsaid => hsaid.concat l

/-- A step of one request, with what is new about its phase and the rows. -/
private theorem Sourced.take (h : Sourced dict requests store ls s) {l : Label ι}
    {store' : Sqlite.Store} {phase : Phase}
    (hstep : step dict requests s l = some (s.after i store' phase))
    (hunlisted : phase.waiting → whiteListingPredicate dict (formatted (requests i)) = false)
    (hstored : ∀ row ∈ store'.db.requests, row ∈ s.store.db.requests ∨ ∃ rowid request,
      row = Row.ofRequest rowid request ∧ Storable request.feature ∧
        Said dict requests store ls request.origin request.feature request.answer)
    (hprompted : ∀ query answer, phase = .prompted query answer →
      Said dict requests store (ls ++ [l]) (formatted (requests i)).application.id
        (requests i).feature answer)
    (hreturned : ∀ answer added, phase = .returned answer added →
      whiteListingPredicate dict (formatted (requests i)) = true ∨
        Stems dict requests store ls (formatted (requests i)).application.id (requests i).feature
          answer) : Sourced dict requests store (ls ++ [l]) (s.after i store' phase) where
  run := Transition.run_concat h.run hstep
  unlisted := State.after_forall (fun j phase => phase.waiting →
    whiteListingPredicate dict (formatted (requests j)) = false) hunlisted fun j _ => h.unlisted j
  stored row hrow := by
    have hsaid : ∀ rowid request, row = Row.ofRequest rowid request ∧ Storable request.feature ∧
        Said dict requests store ls request.origin request.feature request.answer →
        ∃ rowid request, row = Row.ofRequest rowid request ∧ Storable request.feature ∧
          Said dict requests store (ls ++ [l]) request.origin request.feature request.answer := by
      rintro rowid request ⟨hrow, hfeature, hsaid⟩
      exact ⟨rowid, request, hrow, hfeature, hsaid.concat l⟩
    rcases hstored row hrow with hold | ⟨rowid, request, hnew⟩
    · rcases h.stored row hold with hfirst | ⟨rowid, request, hlater⟩
      · exact .inl hfirst
      · exact .inr (hsaid rowid request hlater)
    · exact .inr (hsaid rowid request hnew)
  prompted := State.after_forall
    (fun j phase => ∀ query answer, phase = .prompted query answer →
      Said dict requests store (ls ++ [l]) (formatted (requests j)).application.id
        (requests j).feature answer)
    hprompted fun j _ query answer hj => (h.prompted j query answer hj).concat l
  returned := by
    refine State.after_forall
      (fun j phase => ∀ answer added, phase = .returned answer added →
        whiteListingPredicate dict (formatted (requests j)) = true ∨
          Stems dict requests store (ls ++ [l]) (formatted (requests j)).application.id
            (requests j).feature answer) ?_ ?_
    · intro answer added hphase
      exact (hreturned answer added hphase).imp_right fun hstems => hstems.concat l
    · intro j _ answer added hj
      exact (h.returned j answer added hj).imp_right fun hstems => hstems.concat l

/-- A removal, with fewer rows than before. -/
private theorem Sourced.remove (h : Sourced dict requests store ls s) {l : Label ι}
    {store' : Sqlite.Store} (hstep : step dict requests s l = some { s with store := store' })
    (hsubset : store'.db.requests ⊆ s.store.db.requests) :
    Sourced dict requests store (ls ++ [l]) { s with store := store' } where
  run := Transition.run_concat h.run hstep
  unlisted := h.unlisted
  stored row hrow := by
    rcases h.stored row (hsubset hrow) with hfirst | ⟨rowid, request, heq, hfeature, hsaid⟩
    · exact .inl hfirst
    · exact .inr ⟨rowid, request, heq, hfeature, hsaid.concat l⟩
  prompted j query answer hj := (h.prompted j query answer hj).concat l
  returned j answer added hj :=
    (h.returned j answer added hj).imp_right fun hstems => hstems.concat l

/-- A row that is found stems from somewhere. -/
private theorem Sourced.found (h : Sourced dict requests store ls s) {id : String}
    {feature : Feature} {row : Row} (hrow : row ∈ s.store.db.matching id feature) :
    Stems dict requests store ls id feature row.request.answer := by
  obtain ⟨hmem, hcolumns⟩ := Sqlite.mem_matching.mp hrow
  rcases h.stored row hmem with hfirst | ⟨rowid, request, rfl, hfeature, hsaid⟩
  · exact .inr ⟨row, Sqlite.mem_matching.mpr ⟨hfirst, hcolumns⟩, rfl⟩
  · rw [Sqlite.Connection.matching, (s.store.db.engine.sort_perm _).mem_iff, List.mem_filter,
      Decisions.selects_ofRequest hfeature, decide_eq_true_eq] at hrow
    obtain ⟨-, rfl, rfl⟩ := hrow
    rw [Row.answer_ofRequest]
    exact .inl hsaid

/-- One step keeps where everything stems from. -/
theorem sourced_step (hproper : Proper dict requests) (h : Sourced dict requests store ls s)
    {l : Label ι} (hstep : step dict requests s l = some t) :
    Sourced dict requests store (ls ++ [l]) t := by
  cases l with
  | removeApplication id =>
    cases hstep
    exact h.remove rfl (removeApplication_subset s.store id)
  | reset =>
    cases hstep
    exact h.remove rfl (reset_subset s.store)
  | request i reaction now =>
    have hsame : ∀ {store' : Sqlite.Store}, Same s.store store' → ∀ row ∈ store'.db.requests,
        row ∈ s.store.db.requests ∨ ∃ rowid request, row = Row.ofRequest rowid request ∧
          Storable request.feature ∧
            Said dict requests store ls request.origin request.feature request.answer := by
      intro store' hsame row hrow
      exact .inl (hsame.requests ▸ hrow)
    cases next_takes (hproper.formatted_ne_empty i) hstep with
    | listed hidle hlisted =>
      exact h.take hstep (by simp [Phase.waiting]) (hsame ⟨rfl, rfl⟩) (by simp)
        fun _ _ _ => .inl hlisted
    | found row store' hidle hunlisted hnewest hreads =>
      refine h.take hstep (by simp [Phase.waiting]) (hsame hreads) (by simp) ?_
      intro answer added hr
      cases hr
      exact .inr (h.found (List.mem_of_mem_head? hnewest))
    | missed query store' hidle hunlisted hnothing hreads =>
      exact h.take hstep (fun _ => hunlisted) (hsame hreads) (by simp) (by simp)
    | prompted query answer hmissed hreacted =>
      refine h.take hstep (fun _ => h.unlisted i ?_) (hsame ⟨rfl, rfl⟩) ?_ (by simp)
      · rw [hmissed]
        rfl
      · intro query' answer' hp
        cases hp
        rw [hreacted]
        exact ⟨ls, [], i, query, now, s, rfl, h.run, hmissed, rfl, rfl⟩
    | added query answer store' rowid hprompted hreq hengine =>
      have hsaid := h.prompted i query answer hprompted
      have hunlisted := h.unlisted i (by rw [hprompted]; rfl)
      refine h.take hstep (by simp [Phase.waiting]) ?_ (by simp) ?_
      · intro row hrow
        rw [hreq, List.mem_append, List.mem_singleton] at hrow
        exact hrow.imp_right fun hrow => ⟨rowid, _, hrow, hproper.storable hunlisted, hsaid⟩
      · intro answer' added hr
        cases hr
        exact .inr (.inl hsaid)
    | threw e store' hpending hreads =>
      exact h.take hstep (by simp [Phase.waiting]) (hsame hreads) (by simp) (by simp)

/-- Everything stems from somewhere after every run. -/
theorem sourced_run (hproper : Proper dict requests)
    (hrun : Transition.run (step dict requests) (start store) ls = some t) :
    Sourced dict requests store ls t := by
  have hstart : Sourced dict requests store [] (start store) :=
    ⟨rfl, by simp [start, Phase.waiting], fun row hrow => .inl hrow, by simp [start],
      by simp [start]⟩
  have hstep : ∀ before s l t, Sourced dict requests store before s → True →
      step dict requests s l = some t → Sourced dict requests store (before ++ [l]) t :=
    fun _ _ _ _ h _ hstep => sourced_step hproper h hstep
  exact Transition.invariant_run_history hstep hstart (Transition.meets_true _ ls) hrun

/-- In every run of any number of proper requests and removals, whatever calls of SQLite fail, the
answer to a request that is not white-listed is what the user said in the run when they were
prompted for that feature of that application, or the answer of a row that the database had for them
before. -/
theorem stems_run (hproper : Proper dict requests)
    (hrun : Transition.run (step dict requests) (start store) ls = some t)
    (hunlisted : ¬ WhiteListed dict (requests i).application.id) {answer : Answer}
    {added : Option Row} (hreturned : t.phases i = .returned answer added) :
    Stems dict requests store ls (formatted (requests i)).application.id (requests i).feature
      answer :=
  ((sourced_run hproper hrun).returned i answer added hreturned).resolve_left
    (mt (WhiteList.whiteListingPredicate_iff dict _).mp hunlisted)

/-- The second request is granted, as the user said when they were prompted for the first. -/
theorem stems_run_interleaved :
    Stems Decisions.sockets interleaved (Sqlite.Store.empty Sqlite.Engine.stable)
      (promptedTwice ++ [.request 0 (.ok .granted) 8, .request 1 (.ok .denied) 9]) "org.app_app" ⟨1⟩
      .granted := by
  obtain ⟨t, hrun, hresult⟩ : ∃ t, Transition.run (step Decisions.sockets interleaved)
      (start (Sqlite.Store.empty Sqlite.Engine.stable))
      (promptedTwice ++ [.request 0 (.ok .granted) 8, .request 1 (.ok .denied) 9]) = some t ∧
      result (t.phases 1) = some (.ok .granted) := ⟨_, rfl, rfl⟩
  obtain ⟨added, hreturned⟩ := returned_of_result hresult
  exact stems_run proper_interleaved hrun (Decisions.unlisted_of_take (by decide)) hreturned

end Sources

/-! ### Once there is an answer -/

/-- A client may take rows of an application away. The empty id stands for the one that was removed
before. -/
def Label.MayRemove (id : String) : Label ι → Prop
  | .request .. => False
  | .removeApplication other => other = id ∨ other = ""
  | .reset => True

/-- Requests for a feature of an application find the row, and a later one does not wait. -/
structure Found (id : String) (row : Row) (j : ι) (s : State ι) : Prop where
  stored : row ∈ s.store.db.requests
  application : row.applicationId = .text id
  later : (s.phases j).waiting = false

/-- A removal of another application, or of nothing, keeps a row. -/
private theorem mem_removed {store : Sqlite.Store} {id other : String} (hother : other ≠ id)
    (hne : other ≠ "") {row : Row} (hrow : row ∈ store.db.requests)
    (hid : row.applicationId = .text id) :
    row ∈ ((Sqlite.Store.removeApplication other).exec store).2.db.requests := by
  rcases store.removeApplication_cases hne with ⟨t, h, -, hreq⟩ | ⟨e, t, h, -, hreq⟩
  · rw [h, hreq, List.mem_filter]
    refine ⟨hrow, ?_⟩
    simp [Sqlite.Value.equals, hid, hother.symm]
  · rw [h, hreq]
    exact hrow

/-- As long as nobody may take the row away, it is found, and the later request does not wait. -/
private theorem found_step (hproper : Proper dict requests) {row : Row}
    (hmatching : ∀ s : State ι, row ∈ s.store.db.requests →
      row ∈ s.store.db.matching (formatted (requests j)).application.id (requests j).feature)
    (h : Found (formatted (requests j)).application.id row j s) {l : Label ι}
    (hkept : ¬ l.MayRemove (formatted (requests j)).application.id)
    (hstep : step dict requests s l = some t) :
    Found (formatted (requests j)).application.id row j t := by
  cases l with
  | removeApplication other =>
    cases hstep
    rw [Label.MayRemove, not_or] at hkept
    exact ⟨mem_removed hkept.1 hkept.2 h.stored h.application, h.application, h.later⟩
  | reset => exact absurd trivial hkept
  | request i reaction now =>
    have hlater : ∀ {store : Sqlite.Store} {phase : Phase}, phase.waiting = false →
        ((s.after i store phase).phases j).waiting = false := by
      intro store phase hphase
      by_cases hji : j = i
      · rw [hji, State.after_self, hphase]
      · rw [s.after_of_ne store phase hji, h.later]
    cases next_takes (hproper.formatted_ne_empty i) hstep with
    | listed hidle hlisted => exact ⟨h.stored, h.application, hlater rfl⟩
    | found row' store hidle hunlisted hnewest hsame =>
      exact ⟨hsame.requests ▸ h.stored, h.application, hlater rfl⟩
    | missed query store hidle hunlisted hnothing hsame =>
      refine ⟨hsame.requests ▸ h.stored, h.application, ?_⟩
      have hji : j ≠ i := by
        rintro rfl
        have hnil : s.store.db.matching (formatted (requests j)).application.id
          (requests j).feature = [] := hnothing
        have hrow := hmatching s h.stored
        rw [hnil] at hrow
        cases hrow
      rw [s.after_of_ne store _ hji, h.later]
    | prompted query answer hmissed hreacted =>
      refine ⟨h.stored, h.application, ?_⟩
      have hji : j ≠ i := by
        rintro rfl
        have hlater := h.later
        rw [hmissed] at hlater
        cases hlater
      rw [s.after_of_ne _ _ hji, h.later]
    | added query answer store rowid hprompted hreq hengine =>
      refine ⟨?_, h.application, hlater rfl⟩
      rw [State.after_store, hreq]
      exact List.mem_append_left _ h.stored
    | threw e store hpending hsame => exact ⟨hsame.requests ▸ h.stored, h.application, hlater rfl⟩

/-- Nobody waits about a feature of an application, whose rows are as they were, and a later request
got no further than to return the answer of the newest. -/
structure Quiet (dict : Dictionary) (requests : ι → RequestParameters) (i j : ι) (rows : List Row)
    (s : State ι) : Prop where
  matching : s.store.db.matching (formatted (requests i)).application.id (requests i).feature = rows
  nobody : ∀ k, Alike requests i k → (s.phases k).waiting = false
  later : ∀ answer added, s.phases j = .returned answer added →
    added = none ∧ ∃ row ∈ rows.head?, row.request.answer = answer
  unlisted : ∀ k, (s.phases k).waiting → whiteListingPredicate dict (formatted (requests k)) = false

/-- The white list only sees the application id. -/
private theorem predicate_eq {params params' : RequestParameters}
    (h : params.application.id = params'.application.id) :
    whiteListingPredicate dict params = whiteListingPredicate dict params' := by
  simp only [whiteListingPredicate, WhiteListingAgent.alwaysGrantForUnconfined, h]

private theorem matching_same {store store' : Sqlite.Store} (h : Same store store') (id : String)
    (feature : Feature) : store'.db.matching id feature = store.db.matching id feature := by
  rw [Sqlite.Connection.matching, Sqlite.Connection.matching, h.requests, h.engine]

/-- Rows of others do not match. -/
private theorem matching_added {store store' : Sqlite.Store} {rowid : Int64} {request : Request}
    {id : String} {feature : Feature} (hfeature : Storable request.feature)
    (hother : ¬ (request.origin = id ∧ request.feature = feature))
    (hreq : store'.db.requests = store.db.requests ++ [Row.ofRequest rowid request])
    (hengine : store'.db.engine = store.db.engine) :
    store'.db.matching id feature = store.db.matching id feature := by
  rw [Sqlite.Connection.matching, Sqlite.Connection.matching, hreq, hengine, List.filter_append,
    List.filter_singleton, Decisions.selects_ofRequest hfeature, decide_eq_false hother, cond_false,
    List.append_nil]

/-- A removal of another application keeps the rows that match. -/
private theorem matching_removed {store : Sqlite.Store} {id other : String} (hother : other ≠ id)
    (hne : other ≠ "") (feature : Feature) :
    ((Sqlite.Store.removeApplication other).exec store).2.db.matching id feature =
      store.db.matching id feature := by
  rcases store.removeApplication_cases hne with ⟨t, h, hengine, hreq⟩ | ⟨e, t, h, hengine, hreq⟩
  · have hfilter : t.db.requests.filter (Sqlite.selects (Sqlite.narrowed id feature)) =
        store.db.requests.filter (Sqlite.selects (Sqlite.narrowed id feature)) := by
      rw [hreq, List.filter_filter]
      apply List.filter_congr
      intro row _
      simp only [Sqlite.selects_narrowed, Sqlite.Value.equals]
      grind
    rw [h, Sqlite.Connection.matching, Sqlite.Connection.matching, hengine, hfilter]
  · rw [h, Sqlite.Connection.matching, Sqlite.Connection.matching, hengine, hreq]

/-- A step of a request keeps it quiet. -/
private theorem quiet_takes (hproper : Proper dict requests) {k : ι} {rows : List Row}
    (hrows : rows ≠ []) (hunlisted : whiteListingPredicate dict (formatted (requests i)) = false)
    (halike : Alike requests i j) (h : Quiet dict requests i j rows s)
    (htakes : Takes dict s k (formatted (requests k)) reaction now t) :
    Quiet dict requests i j rows t := by
  -- what is new about the request that takes the step
  have hafter : ∀ {store : Sqlite.Store} {phase : Phase},
      store.db.matching (formatted (requests i)).application.id (requests i).feature = rows →
      (phase.waiting → ¬ Alike requests i k ∧
        whiteListingPredicate dict (formatted (requests k)) = false) →
      (∀ answer added, Alike requests i k → phase = .returned answer added →
        added = none ∧ ∃ row ∈ rows.head?, row.request.answer = answer) →
      Quiet dict requests i j rows (s.after k store phase) := by
    intro store phase hmatching hwaiting hlater
    refine ⟨hmatching, ?_, fun answer added hj => ?_, ?_⟩
    · refine State.after_forall
        (fun l phase => Alike requests i l → phase.waiting = false) ?_ fun l _ => h.nobody l
      intro halike
      rw [Bool.eq_false_iff]
      exact fun hphase => (hwaiting hphase).1 halike
    · by_cases hjk : j = k
      · subst hjk
        rw [State.after_self] at hj
        exact hlater answer added halike hj
      · rw [s.after_of_ne store phase hjk] at hj
        exact h.later answer added hj
    · exact State.after_forall (fun l phase => phase.waiting →
        whiteListingPredicate dict (formatted (requests l)) = false)
        (fun hphase => (hwaiting hphase).2) fun l _ => h.unlisted l
  have hunlike : (s.phases k).waiting → ¬ Alike requests i k := by
    intro hwaiting halike
    rw [h.nobody k halike] at hwaiting
    cases hwaiting
  cases htakes with
  | listed hidle hlisted =>
    refine hafter h.matching (by simp [Phase.waiting]) fun answer added halike _ => ?_
    rw [predicate_eq halike.1, hlisted] at hunlisted
    cases hunlisted
  | found row store hidle _ hnewest hsame =>
    refine hafter ((matching_same hsame _ _).trans h.matching) (by simp [Phase.waiting]) ?_
    intro answer added halike hreturned
    cases hreturned
    refine ⟨rfl, row, ?_, rfl⟩
    rw [← h.matching, halike.1, halike.2]
    exact hnewest
  | missed query store hidle hother hnothing hsame =>
    refine hafter ((matching_same hsame _ _).trans h.matching) (fun _ => ⟨fun halike => ?_, hother⟩)
      (by simp)
    have hnil : s.store.db.matching (formatted (requests k)).application.id
      (requests k).feature = [] := hnothing
    rw [← halike.1, ← halike.2, h.matching] at hnil
    exact hrows hnil
  | prompted query answer hmissed hreacted =>
    have hwaiting : (s.phases k).waiting := by
      rw [hmissed]
      rfl
    exact hafter h.matching (fun _ => ⟨hunlike hwaiting, h.unlisted k hwaiting⟩) (by simp)
  | added query answer store rowid hprompted hreq hengine =>
    have hwaiting : (s.phases k).waiting := by
      rw [hprompted]
      rfl
    have hmatching := matching_added (hproper.storable (h.unlisted k hwaiting))
      (fun halike => hunlike hwaiting ⟨halike.1.symm, halike.2.symm⟩) hreq hengine
    exact hafter (hmatching.trans h.matching) (by simp [Phase.waiting])
      fun _ _ halike _ => absurd halike (hunlike hwaiting)
  | threw e store hpending hsame =>
    exact hafter ((matching_same hsame _ _).trans h.matching) (by simp [Phase.waiting]) (by simp)

/-- As long as nobody may take the rows away, it stays quiet. -/
private theorem quiet_step (hproper : Proper dict requests) {rows : List Row}
    (hrows : rows ≠ []) (hunlisted : whiteListingPredicate dict (formatted (requests i)) = false)
    (halike : Alike requests i j) (h : Quiet dict requests i j rows s) {l : Label ι}
    (hkept : ¬ l.MayRemove (formatted (requests i)).application.id)
    (hstep : step dict requests s l = some t) : Quiet dict requests i j rows t := by
  cases l with
  | request k reaction now =>
    exact quiet_takes hproper hrows hunlisted halike h
      (next_takes (hproper.formatted_ne_empty k) hstep)
  | removeApplication other =>
    cases hstep
    rw [Label.MayRemove, not_or] at hkept
    exact ⟨(matching_removed hkept.1 hkept.2 _).trans h.matching, h.nobody, h.later, h.unlisted⟩
  | reset => exact absurd trivial hkept

/-- A request that is answered and not white-listed leaves a row with its answer. -/
private theorem exists_answered (hproper : Proper dict requests)
    (hunlisted : whiteListingPredicate dict (formatted (requests i)) = false)
    (hstep : step dict requests s (.request i reaction now) = some t) {answer : Answer}
    {added : Option Row} (hreturned : t.phases i = .returned answer added) :
    ∃ row ∈ t.store.db.matching (formatted (requests i)).application.id (requests i).feature,
      row.request.answer = answer := by
  cases next_takes (hproper.formatted_ne_empty i) hstep with
  | listed hidle hlisted =>
    rw [hlisted] at hunlisted
    cases hunlisted
  | found row store hidle _ hnewest hsame =>
    rw [State.after_self] at hreturned
    cases hreturned
    refine ⟨row, ?_, rfl⟩
    rw [State.after_store, matching_same hsame]
    exact List.mem_of_mem_head? hnewest
  | missed => simp at hreturned
  | prompted => simp at hreturned
  | added query answer' store rowid hprompted hreq hengine =>
    rw [State.after_self] at hreturned
    cases hreturned
    let request : Request :=
      ⟨(formatted (requests i)).application.id, (requests i).feature, now, answer⟩
    have hselects := Decisions.selects_ofRequest (show Storable request.feature from
      hproper.storable hunlisted) rowid request.origin request.feature
    refine ⟨Row.ofRequest rowid request, ?_, Row.answer_ofRequest rowid request⟩
    rw [State.after_store, Sqlite.Connection.matching, (store.db.engine.sort_perm _).mem_iff, hreq,
      List.mem_filter, List.mem_append, List.mem_singleton, hselects]
    exact ⟨.inr rfl, decide_eq_true ⟨rfl, rfl⟩⟩
  | threw => simp at hreturned

/-- In every run of proper requests, whatever calls of SQLite fail, after a request that is not
white-listed was answered, a request for the same feature of the same application that comes later
never waits for the user, as long as nobody may remove the application. If no other such request
waits at that time, it can only be answered with what is decided then. -/
theorem settled_run {store : Sqlite.Store} {before after : List (Label ι)}
    (hproper : Proper dict requests)
    (hunlisted : ¬ WhiteListed dict (requests i).application.id)
    (hbefore : Transition.run (step dict requests) (start store)
      (before ++ [.request i reaction now]) = some s) {answer : Answer} {added : Option Row}
    (hreturned : s.phases i = .returned answer added)
    (hkept : ∀ l ∈ after, ¬ l.MayRemove (formatted (requests i)).application.id)
    (hafter : Transition.run (step dict requests) s after = some t)
    (halike : Alike requests i j) (hidle : s.phases j = .idle) :
    (t.phases j).waiting = false ∧
      ((∀ k, Alike requests i k → (s.phases k).waiting = false) →
        ∀ answer' added', t.phases j = .returned answer' added' → added' = none ∧
          decisions s.store (formatted (requests i)).application.id (requests i).feature =
            some answer') := by
  have hlisted : whiteListingPredicate dict (formatted (requests i)) = false := by
    rw [← Bool.not_eq_true]
    exact mt (WhiteList.whiteListingPredicate_iff dict _).mp hunlisted
  have hkeeps : ∀ {C : State ι → Label ι → Prop},
      (∀ s l, ¬ l.MayRemove (formatted (requests i)).application.id → C s l) →
      Transition.Meets (step dict requests) C s after :=
    fun hC => Transition.meets_of_forall fun l hl s => hC s l (hkept l hl)
  obtain ⟨r, -, hlast⟩ := Transition.run_append_some.mp hbefore
  rw [Transition.run_singleton] at hlast
  obtain ⟨row, hrow, -⟩ := exists_answered hproper hlisted hlast hreturned
  obtain ⟨hstored, hcolumns⟩ := Sqlite.mem_matching.mp hrow
  constructor
  · -- the row stays, and whoever looks it up does not wait
    have hmatching : ∀ s : State ι, row ∈ s.store.db.requests →
        row ∈ s.store.db.matching (formatted (requests j)).application.id (requests j).feature := by
      intro s hs
      rw [← halike.1, ← halike.2]
      exact Sqlite.mem_matching.mpr ⟨hs, hcolumns⟩
    have hfound : Found (formatted (requests j)).application.id row j s :=
      ⟨hstored, halike.1 ▸ hcolumns.1, by rw [hidle]; rfl⟩
    exact (Transition.invariant_run
      (fun _ _ _ h hkept hstep => found_step hproper hmatching h (halike.1 ▸ hkept) hstep)
      hfound (hkeeps fun _ _ hkept => hkept) hafter).later
  · intro hnobody answer' added' hj
    have hquiet : Quiet dict requests i j (s.store.db.matching
        (formatted (requests i)).application.id (requests i).feature) s :=
      ⟨rfl, hnobody, by simp [hidle], (sourced_run hproper hbefore).unlisted⟩
    have hlater := (Transition.invariant_run
      (fun _ _ _ h hkept hstep =>
        quiet_step hproper (List.ne_nil_of_mem hrow) hlisted halike h hkept hstep)
      hquiet (hkeeps fun _ _ hkept => hkept) hafter).later answer' added' hj
    obtain ⟨hadded, newest, hnewest, hanswer⟩ := hlater
    refine ⟨hadded, ?_⟩
    rw [decisions, Option.mem_def.mp hnewest, Option.map_some, hanswer]

/-- After the first request was answered, the second one, of another version of the application, is
answered with what was decided, although another application is removed in between. -/
theorem settled_run_interleaved : ∃ s t : State (Fin 3),
    Transition.run (step Decisions.sockets interleaved)
      (start (Sqlite.Store.empty Sqlite.Engine.stable))
      (promptedTwice ++ [.request 0 (.ok .granted) 8]) = some s ∧
    Transition.run (step Decisions.sockets interleaved) s
      [.removeApplication "org.other", .request 1 (.ok .denied) 9] = some t ∧
    (t.phases 1).waiting = false ∧ t.phases 1 = .returned .granted none ∧
    decisions s.store "org.app_app" ⟨1⟩ = some .granted := by
  obtain ⟨s, hbefore, hresult, hidle, hnobody⟩ : ∃ s,
      Transition.run (step Decisions.sockets interleaved)
        (start (Sqlite.Store.empty Sqlite.Engine.stable))
        (promptedTwice ++ [.request 0 (.ok .granted) 8]) = some s ∧
      result (s.phases 0) = some (.ok .granted) ∧ s.phases 1 = .idle ∧
      ∀ k, Alike interleaved 0 k → (s.phases k).waiting = false :=
    ⟨_, rfl, rfl, rfl, by decide +kernel⟩
  obtain ⟨t, hrun, hlater⟩ : ∃ t,
      Transition.run (step Decisions.sockets interleaved)
        (start (Sqlite.Store.empty Sqlite.Engine.stable))
        ((promptedTwice ++ [.request 0 (.ok .granted) 8]) ++
          [.removeApplication "org.other", .request 1 (.ok .denied) 9]) = some t ∧
      result (t.phases 1) = some (.ok .granted) := ⟨_, rfl, rfl⟩
  obtain ⟨r, hr, hafter⟩ := Transition.run_append_some.mp hrun
  cases Option.some.inj (hr.symm.trans hbefore)
  obtain ⟨added, hreturned⟩ := returned_of_result hresult
  obtain ⟨added', hfound⟩ := returned_of_result hlater
  obtain ⟨hwaiting, hanswer⟩ := settled_run (i := 0) (j := 1) proper_interleaved
    (Decisions.unlisted_of_take (by decide)) hbefore hreturned (by simp [Label.MayRemove]; decide)
    hafter (by decide) hidle
  obtain ⟨rfl, hdecided⟩ := hanswer hnobody _ _ hfound
  exact ⟨s, t, hbefore, hafter, hwaiting, hfound, hdecided⟩

end TrustStore.Daemon.Concurrent
