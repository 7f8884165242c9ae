import TrustStore.Base.Timeline
import TrustStore.Remote.Loops
import TrustStore.Remote.Ordering
import Mathlib.Order.Nat

/-!
# Processes that take over the id of another

Between the moment at which a request is made and the moment at which the skeleton asks for the
application of its process, the process may end and another one get its id. The stub samples the
start time of the process before and after: if both samples agree, the skeleton saw the process
that made the request, whether or not it verified the start time itself. That is, if the answer is
the one to the request.
-/

namespace TrustStore.Remote.Posix

open TrustStore.Base

/-- The processes of a system over time. The label of a process does not change while it runs. -/
structure Processes (T ι : Type) [Preorder T] extends Timeline Pid T ι Int64 where
  label : ι → String

/-- What the skeleton passes to its agent for a request, if it comes that far. -/
def Skeleton.asks (config : Skeleton.Configuration PUnit) (request : Request) :
    Option RequestParameters :=
  ((Skeleton.processIncomingRequest
    { impl := fun parameters => do
        set (some parameters)
        return .denied
      startTimeResolver := fun pid =>
        Fallible.zoom (fun _ => ⟨⟩) (fun asked _ => asked) (config.startTimeResolver pid)
      appIdResolver := fun pid =>
        Fallible.zoom (fun _ => ⟨⟩) (fun asked _ => asked) (config.appIdResolver pid)
      descriptionFormat := config.descriptionFormat
      verifyProcessStartTime := config.verifyProcessStartTime } request).exec none).2

/-- The stub and its skeletons in time: when each call was entered, and what the agent was asked
for its request. A call is entered when it samples the start time for the first time. -/
structure Timed (T : Type) where
  state : State
  now : T
  entered : CallId → Option T
  asked : CallId → Option RequestParameters

/-- A step, and when it is taken. The skeleton processes a request at the time at which it
resolves the application id. -/
structure Moment (T : Type) where
  time : T
  label : Label

namespace Timed

variable {T : Type}

/-- Nothing has happened yet. -/
def start (now : T) : Timed T := ⟨Posix.start, now, fun _ => none, fun _ => none⟩

/-- One step. -/
def step (parameters : CallId → RequestParameters) (w : Timed T) (moment : Moment T) :
    Option (Timed T) :=
  (Posix.step parameters w.state moment.label).map fun t =>
    { state := t
      now := moment.time
      entered :=
        match moment.label with
        | .startTimeBeforeQuery i _ => Function.update w.entered i (some moment.time)
        | _ => w.entered
      asked :=
        match moment.label with
        | .processIncomingRequest k config =>
          match (w.state.sessions k).skeleton with
          | .processing request =>
            Function.update w.asked request.call (Skeleton.asks config request.value)
          | _ => w.asked
        | _ => w.asked }

end Timed

section

variable {T : Type} {parameters : CallId → RequestParameters} {w w' : Timed T} {moment : Moment T}
  {s t : State}

/-! ### What is noted in time -/

private theorem steps_of_timed (hstep : Timed.step parameters w moment = some w') :
    Steps parameters w.state moment.label w'.state ∧ w'.now = moment.time := by
  obtain ⟨t, ht, rfl⟩ := Option.map_eq_some_iff.mp hstep
  exact ⟨steps_of_step ht, rfl⟩

/-- A call that is entered now was not entered before. -/
private theorem entered_of_query {i : CallId} {outcome : Except Exception Int64}
    (hstep : Steps parameters s (.startTimeBeforeQuery i outcome) t) : s.calls i = .entered := by
  cases hstep with
  | startTimeBeforeQuery hi => exact hi
  | startTimeBeforeQueryThrows hi => exact hi

/-- The time at which a call was entered does not change. -/
private theorem entered_eq (hstep : Timed.step parameters w moment = some w') {i : CallId}
    (hi : w.state.calls i ≠ .entered) : w'.entered i = w.entered i := by
  obtain ⟨time, label⟩ := moment
  obtain ⟨t, ht, rfl⟩ := Option.map_eq_some_iff.mp hstep
  cases label with
  | startTimeBeforeQuery j outcome =>
    have hij : i ≠ j := by
      rintro rfl
      exact hi (entered_of_query (steps_of_step ht))
    exact Function.update_of_ne hij _ _
  | _ => rfl

/-- What the agent was asked for a call whose answer is computed does not change. -/
private theorem asked_eq (hstep : Timed.step parameters w moment = some w')
    (hordered : Ordered w.state) {i : CallId} {answer : Answer}
    (hi : w.state.fates i = .computed answer) : w'.asked i = w.asked i := by
  obtain ⟨time, label⟩ := moment
  obtain ⟨t, ht, rfl⟩ := Option.map_eq_some_iff.mp hstep
  cases label with
  | processIncomingRequest k config =>
    cases hskeleton : (w.state.sessions k).skeleton with
    | processing request =>
      have hfate := (hordered.tracked k).processing request hskeleton
      have hne : i ≠ request.call := by
        rintro rfl
        rw [hfate] at hi
        cases hi
      simp only [hskeleton, Function.update_of_ne hne]
    | _ => simp only [hskeleton]
  | _ => rfl

end

section

variable {T ι : Type} [Preorder T]

/-- Time does not run backwards, the stub's samples are those of the processes, and where a process
runs the application id that is resolved for it is its label. -/
def Observed (processes : Processes T ι) (parameters : CallId → RequestParameters) (w : Timed T)
    (moment : Moment T) : Prop :=
  w.now ≤ moment.time ∧
  match moment.label with
  | .startTimeBeforeQuery i (.ok time) | .startTimeAfterQuery i (.ok time) =>
    time = processes.sample (parameters i).application.pid moment.time
  | .processIncomingRequest _ config => ∀ pid x appId, processes.holder pid moment.time = some x →
    ((config.appIdResolver pid).exec ⟨⟩).1 = .ok appId → appId = processes.label x
  | _ => True

/-- For every call that returned normally the agent was asked about the process that ran when the
call was entered, and about the user and the feature of the request, and its answer was
returned. -/
def Authentic (processes : Processes T ι) (parameters : CallId → RequestParameters)
    (w : Timed T) : Prop :=
  ∀ i answer, w.state.calls i = .finished (.ok answer) → ∃ entered asked,
    w.entered i = some entered ∧ w.asked i = some asked ∧ w.state.fates i = .computed answer ∧
      asked.application.uid = (parameters i).application.uid ∧
      asked.application.pid = (parameters i).application.pid ∧
      asked.feature = (parameters i).feature ∧
      ∀ x, processes.holder (parameters i).application.pid entered = some x →
        asked.application.id = processes.label x

/-- The start time that a call has sampled and not compared yet. -/
def Progress.startTime : Progress → Option Int64
  | .timed time | .resolved _ time | .written _ time | .answered _ time => some time
  | .entered | .finished _ => none

/-- A request is the one that its call sends. -/
def Sent (parameters : CallId → RequestParameters) (request : Tagged Request) : Prop :=
  request.value.appUid = (parameters request.call).application.uid ∧
    request.value.appPid = (parameters request.call).application.pid ∧
      request.value.feature = (parameters request.call).feature

/-- Every request in a session is the one that its call sends. -/
structure Carried (parameters : CallId → RequestParameters) (s : State) : Prop where
  queued : ∀ k, ∀ request ∈ (s.sessions k).requests, Sent parameters request
  processing : ∀ k request, (s.sessions k).skeleton = .processing request →
    Sent parameters request

/-- The agent has been asked about the user, the feature and the process of a call's request, at a
time since the call was entered. -/
def Heard (processes : Processes T ι) (parameters : CallId → RequestParameters) (w : Timed T)
    (i : CallId) : Prop :=
  ∃ entered time asked, w.entered i = some entered ∧ entered ≤ time ∧ time ≤ w.now ∧
    w.asked i = some asked ∧
      asked.application.uid = (parameters i).application.uid ∧
      asked.application.pid = (parameters i).application.pid ∧
      asked.feature = (parameters i).feature ∧
      ∀ x, processes.holder (parameters i).application.pid time = some x →
        asked.application.id = processes.label x

/-- What holds throughout a run in which calls read in order. -/
structure Consistent (processes : Processes T ι) (parameters : CallId → RequestParameters)
    (w : Timed T) : Prop where
  ordered : Ordered w.state
  carried : Carried parameters w.state
  entered : ∀ i, w.state.calls i ≠ .entered → ∃ entered, w.entered i = some entered ∧
    entered ≤ w.now ∧ ∀ time, (w.state.calls i).startTime = some time →
      time = processes.sample (parameters i).application.pid entered
  heard : ∀ i answer, w.state.fates i = .computed answer → Heard processes parameters w i
  authentic : Authentic processes parameters w

variable {processes : Processes T ι} {parameters : CallId → RequestParameters} {w w' : Timed T}
  {moment : Moment T}

/-! ### Requests -/

/-- The agent is asked about the application that was resolved. -/
theorem Skeleton.asks_of_served {config : Skeleton.Configuration PUnit} {request : Request}
    (h : Skeleton.Served config request) : ∃ appId,
      ((config.appIdResolver request.appPid).exec ⟨⟩).1 = .ok appId ∧
        Skeleton.asks config request = some
          { application :=
              { uid := request.appUid
                pid := request.appPid
                id := appId }
            feature := request.feature
            description := config.descriptionFormat } := by
  obtain ⟨htime, appId, happId, -⟩ := h
  refine ⟨appId, happId, ?_⟩
  rw [Skeleton.asks, Skeleton.processIncomingRequest]
  cases hverify : config.verifyProcessStartTime with
  | false => simp [happId]
  | true => simp [happId, htime hverify]

variable {s t : State} {label : Label}

private theorem carried_onSession (h : Carried parameters s) {k : SessionId} {session : Session}
    (hsessions : t.sessions = Function.update s.sessions k session)
    (hqueued : ∀ request ∈ session.requests, Sent parameters request)
    (hprocessing : ∀ request, session.skeleton = .processing request → Sent parameters request) :
    Carried parameters t := by
  refine ⟨fun j => ?_, fun j => ?_⟩
  · rw [hsessions]
    by_cases hjk : j = k
    · subst hjk
      rw [Function.update_self]
      exact hqueued
    · rw [Function.update_of_ne hjk]
      exact h.queued j
  · rw [hsessions]
    by_cases hjk : j = k
    · subst hjk
      rw [Function.update_self]
      exact hprocessing
    · rw [Function.update_of_ne hjk]
      exact h.processing j

private theorem carried_onNewSession (h : Carried parameters s) (ec : Option AsyncError)
    (peer : Except Exception Uid) : Carried parameters (s.onNewSession ec peer) := by
  cases ec with
  | some e => cases e <;> exact ⟨h.queued, h.processing⟩
  | none =>
    cases peer with
    | error e => exact ⟨h.queued, h.processing⟩
    | ok uid => exact carried_onSession h rfl (by simp [Session.new]) (by simp [Session.new])

/-- Every request in a session is the one that its call sends. -/
theorem carried_step (h : Carried parameters s) (hstep : Steps parameters s label t) :
    Carried parameters t := by
  cases hstep with
  | onNewSession => exact carried_onNewSession h _ _
  | @write i k time =>
    refine carried_onSession h rfl (fun request hrequest => ?_) (h.processing k)
    rcases List.mem_append.mp hrequest with hrequest | hrequest
    · exact h.queued k request hrequest
    · rw [List.mem_singleton.mp hrequest]
      exact ⟨rfl, rfl, rfl⟩
  | writeFails => exact ⟨by simpa using h.queued, by simpa using h.processing⟩
  | readFails => exact ⟨by simpa using h.queued, by simpa using h.processing⟩
  | @read i k => exact carried_onSession h rfl (h.queued k) (h.processing k)
  | @onReadFinished k request requests hk hskeleton hrequests =>
    refine carried_onSession h rfl (fun r hr => ?_) fun r hr => ?_
    · exact h.queued k r (by rw [hrequests]; exact List.mem_cons_of_mem _ hr)
    · cases hr
      exact h.queued k request (by rw [hrequests]; exact List.mem_cons_self)
  | @onReadAborted k => exact carried_onSession h rfl (h.queued k) (by simp)
  | @processIncomingRequest k => exact carried_onSession h rfl (h.queued k) (by simp)
  | @processIncomingRequestThrows k => exact carried_onSession h rfl (h.queued k) (by simp)
  | @writeAnswer k => exact carried_onSession h rfl (h.queued k) (by simp)
  | @writeAnswerFails k => exact carried_onSession h rfl (h.queued k) (by simp)
  | _ => exact ⟨h.queued, h.processing⟩

/-! ### What a step does to calls and answers -/

/-- How a call goes on: it is entered, or it keeps its start time, and it only returns an answer
when the process still has this start time. -/
inductive Proceeds (s : State) (i : CallId) : Label → Progress → Prop
  | enters {outcome : Except Exception Int64} {progress : Progress}
      (htime : ∀ time, progress.startTime = some time → outcome = .ok time)
      (hanswer : ∀ answer, progress ≠ .finished (.ok answer)) :
      Proceeds s i (.startTimeBeforeQuery i outcome) progress
  | goesOn {label : Label} {progress : Progress} (hentered : s.calls i ≠ .entered)
      (htime : ∀ time, progress.startTime = some time → (s.calls i).startTime = some time)
      (hanswer : ∀ answer, progress = .finished (.ok answer) → ∃ time,
        label = .startTimeAfterQuery i (.ok time) ∧ s.calls i = .answered answer time) :
      Proceeds s i label progress

/-- A step lets at most one call go on. -/
theorem calls_of_steps (hstep : Steps parameters s label t) : t.calls = s.calls ∨
    ∃ i progress, t.calls = Function.update s.calls i progress ∧ Proceeds s i label progress := by
  cases hstep with
  | startTimeBeforeQuery hi =>
    exact .inr ⟨_, _, rfl, .enters (by simp [Progress.startTime]) (by simp)⟩
  | startTimeBeforeQueryThrows hi =>
    exact .inr ⟨_, _, rfl, .enters (by simp [Progress.startTime]) (by simp)⟩
  | resolveSession hi =>
    exact .inr ⟨_, _, rfl, .goesOn (by simp [hi]) (by simp [hi, Progress.startTime]) (by simp)⟩
  | resolveSessionThrows hi =>
    exact .inr ⟨_, _, rfl, .goesOn (by simp [hi]) (by simp [Progress.startTime]) (by simp)⟩
  | write hi =>
    exact .inr ⟨_, _, rfl, .goesOn (by simp [hi]) (by simp [hi, Progress.startTime]) (by simp)⟩
  | writeFails hi =>
    exact .inr ⟨_, _, State.handleErrorFromSocketOperationForUid_calls _ _ _ _,
      .goesOn (by simp [hi]) (by simp [Progress.startTime]) (by simp)⟩
  | read hi =>
    exact .inr ⟨_, _, rfl, .goesOn (by simp [hi]) (by simp [hi, Progress.startTime]) (by simp)⟩
  | readFails hi =>
    exact .inr ⟨_, _, State.handleErrorFromSocketOperationForUid_calls _ _ _ _,
      .goesOn (by simp [hi]) (by simp [Progress.startTime]) (by simp)⟩
  | startTimeAfterQuery hi =>
    exact .inr ⟨_, _, rfl, .goesOn (by simp [hi]) (by simp [Progress.startTime]) (by simp [hi])⟩
  | startTimeAfterQueryDiffers hi =>
    exact .inr ⟨_, _, rfl, .goesOn (by simp [hi]) (by simp [Progress.startTime]) (by simp)⟩
  | startTimeAfterQueryThrows hi =>
    exact .inr ⟨_, _, rfl, .goesOn (by simp [hi]) (by simp [Progress.startTime]) (by simp)⟩
  | onNewSession => exact .inl (State.onNewSession_calls _ _ _)
  | _ => exact .inl rfl

/-- An answer is computed for a request that the skeleton has at hand. -/
theorem fates_of_steps (hstep : Steps parameters s label t) {i : CallId} {answer : Answer}
    (hi : t.fates i = .computed answer) : s.fates i = .computed answer ∨
    ∃ k config request, label = .processIncomingRequest k config ∧
      (s.sessions k).skeleton = .processing request ∧ request.call = i ∧
        Skeleton.Served config request.value := by
  cases hstep with
  | @write j k =>
    rw [State.goto_fates, State.send_fates, Function.update_apply] at hi
    split at hi
    · cases hi
    · exact .inl hi
  | @onReadFinished k request =>
    rw [State.track_fates, State.onSession_fates, Function.update_apply] at hi
    split at hi
    · cases hi
    · exact .inl hi
  | @processIncomingRequest k config request answer' hskeleton hanswer =>
    rw [State.track_fates, State.onSkeleton_fates, Function.update_apply] at hi
    split at hi
    next hcall =>
      exact .inr ⟨k, config, request, rfl, hskeleton, hcall.symm,
        Skeleton.served_iff.mpr ⟨answer', hanswer⟩⟩
    next => exact .inl hi
  | onNewSession =>
    rw [State.onNewSession_fates] at hi
    exact .inl hi
  | writeFails =>
    rw [State.handleErrorFromSocketOperationForUid_fates] at hi
    exact .inl hi
  | readFails =>
    rw [State.handleErrorFromSocketOperationForUid_fates] at hi
    exact .inl hi
  | _ => exact .inl hi

/-! ### Steps in time -/

/-- A call whose request has been sent was entered. -/
private theorem Consistent.entered_of_fate (h : Consistent processes parameters w) {i : CallId}
    (hi : w.state.fates i ≠ .unsent) : w.state.calls i ≠ .entered := by
  intro hentered
  exact hi (h.ordered.unsent i (by rw [hentered]; trivial))

private theorem entered_step (h : Consistent processes parameters w)
    (hobserved : Observed processes parameters w moment)
    (hstep : Timed.step parameters w moment = some w') {i : CallId}
    (hi : w'.state.calls i ≠ .entered) : ∃ entered, w'.entered i = some entered ∧
      entered ≤ w'.now ∧ ∀ time, (w'.state.calls i).startTime = some time →
        time = processes.sample (parameters i).application.pid entered := by
  obtain ⟨hsteps, hnow⟩ := steps_of_timed hstep
  -- a call that was entered before, with the same start time or none
  have hold : w.state.calls i ≠ .entered → (∀ time, (w'.state.calls i).startTime = some time →
      (w.state.calls i).startTime = some time) → ∃ entered, w'.entered i = some entered ∧
        entered ≤ w'.now ∧ ∀ time, (w'.state.calls i).startTime = some time →
          time = processes.sample (parameters i).application.pid entered := by
    intro hcalls htime
    obtain ⟨entered, hentered, hle, hsample⟩ := h.entered i hcalls
    refine ⟨entered, ?_, ?_, fun time ht => hsample time (htime time ht)⟩
    · rw [entered_eq hstep hcalls, hentered]
    · rw [hnow]
      exact le_trans hle hobserved.1
  rcases calls_of_steps hsteps with hcalls | ⟨j, progress, hcalls, hproceeds⟩
  · rw [hcalls] at hi
    exact hold hi (by rw [hcalls]; exact fun _ ht => ht)
  · by_cases hij : i = j
    · subst hij
      have hprogress : w'.state.calls i = progress := by rw [hcalls, Function.update_self]
      obtain ⟨time, label⟩ := moment
      cases hproceeds with
      | @enters outcome _ htime =>
        refine ⟨time, ?_, le_of_eq hnow.symm, ?_⟩
        · obtain ⟨t, ht, rfl⟩ := Option.map_eq_some_iff.mp hstep
          exact Function.update_self _ _ _
        · intro time' ht
          rw [hprogress] at ht
          have hok := htime time' ht
          subst hok
          exact hobserved.2
      | goesOn hentered htime => exact hold hentered (by rw [hprogress]; exact htime)
    · rw [hcalls, Function.update_of_ne hij] at hi
      exact hold hi (by rw [hcalls, Function.update_of_ne hij]; exact fun _ ht => ht)

private theorem heard_step (h : Consistent processes parameters w)
    (hobserved : Observed processes parameters w moment)
    (hstep : Timed.step parameters w moment = some w') {i : CallId} {answer : Answer}
    (hi : w'.state.fates i = .computed answer) : Heard processes parameters w' i := by
  obtain ⟨hsteps, hnow⟩ := steps_of_timed hstep
  rcases fates_of_steps hsteps hi with hi | ⟨k, config, request, hlabel, hskeleton, rfl, hserved⟩
  · obtain ⟨entered, time, asked, hentered, hle, hle', hasked, hmatch⟩ := h.heard i answer hi
    have hcalls := h.entered_of_fate (i := i) (by rw [hi]; simp)
    refine ⟨entered, time, asked, ?_, hle, ?_, ?_, hmatch⟩
    · rw [entered_eq hstep hcalls, hentered]
    · rw [hnow]
      exact le_trans hle' hobserved.1
    · rw [asked_eq hstep h.ordered hi, hasked]
  · obtain ⟨appId, happId, hasks⟩ := Skeleton.asks_of_served hserved
    have hfate := (h.ordered.tracked k).processing request hskeleton
    have hcalls := h.entered_of_fate (i := request.call) (by rw [hfate]; simp)
    obtain ⟨entered, hentered, hle, -⟩ := h.entered request.call hcalls
    have hsent := h.carried.processing k request hskeleton
    obtain ⟨time, label⟩ := moment
    subst hlabel
    have hasked : w'.asked request.call = Skeleton.asks config request.value := by
      obtain ⟨t, ht, rfl⟩ := Option.map_eq_some_iff.mp hstep
      simp only [hskeleton, Function.update_self]
    refine ⟨entered, time, _, ?_, le_trans hle hobserved.1, le_of_eq hnow.symm,
      hasked.trans hasks, hsent.1, hsent.2.1, hsent.2.2, ?_⟩
    · rw [entered_eq hstep hcalls, hentered]
    · intro x hx
      rw [hsent.2.1] at happId
      exact hobserved.2 _ x appId hx happId

private theorem authentic_step (h : Consistent processes parameters w)
    (hobserved : Observed processes parameters w moment) (hordered : Ordered w'.state)
    (hstep : Timed.step parameters w moment = some w') : Authentic processes parameters w' := by
  obtain ⟨hsteps, hnow⟩ := steps_of_timed hstep
  intro i answer hi
  have hfate : w'.state.fates i = .computed answer := hordered.held i answer (by rw [hi]; rfl)
  -- a call that had returned before
  have hold : w.state.calls i = .finished (.ok answer) → ∃ entered asked,
      w'.entered i = some entered ∧ w'.asked i = some asked ∧
        w'.state.fates i = .computed answer ∧
        asked.application.uid = (parameters i).application.uid ∧
        asked.application.pid = (parameters i).application.pid ∧
        asked.feature = (parameters i).feature ∧
        ∀ x, processes.holder (parameters i).application.pid entered = some x →
          asked.application.id = processes.label x := by
    intro hcalls
    obtain ⟨entered, asked, hentered, hasked, hfate', hmatch⟩ := h.authentic i answer hcalls
    refine ⟨entered, asked, ?_, ?_, hfate, hmatch⟩
    · rw [entered_eq hstep (by rw [hcalls]; simp), hentered]
    · rw [asked_eq hstep h.ordered hfate', hasked]
  rcases calls_of_steps hsteps with hcalls | ⟨j, progress, hcalls, hproceeds⟩
  · exact hold (by rw [← hcalls, hi])
  · by_cases hij : i = j
    · subst hij
      rw [hcalls, Function.update_self] at hi
      obtain ⟨now, label⟩ := moment
      cases hproceeds with
      | enters _ hanswer => exact absurd hi (hanswer answer)
      | goesOn hentered _ hanswer =>
        obtain ⟨after, rfl, hanswered⟩ := hanswer answer hi
        obtain ⟨hnow', hobserved⟩ := hobserved
        have hfate' := h.ordered.held i answer (by rw [hanswered]; rfl)
        obtain ⟨entered, time, asked, hentered', hle, hle', hasked, huid, hpid, hfeature, hid⟩ :=
          h.heard i answer hfate'
        obtain ⟨_, hsame, -, hsample⟩ := h.entered i hentered
        rw [hentered'] at hsame
        cases hsame
        -- both samples agree, so that the process ran when the agent was asked
        have hbefore := hsample after (by rw [hanswered]; rfl)
        refine ⟨entered, asked, ?_, ?_, hfate, huid, hpid, hfeature, fun x hx => hid x ?_⟩
        · rw [entered_eq hstep hentered, hentered']
        · rw [asked_eq hstep h.ordered hfate', hasked]
        · exact processes.holder_between (hbefore.symm.trans hobserved) hle
            (le_trans hle' hnow') hx
    · rw [hcalls, Function.update_of_ne hij] at hi
      exact hold hi

/-- Every step of an observed run in which calls read in order keeps it consistent. -/
theorem consistent_step (h : Consistent processes parameters w)
    (hobserved : Observed processes parameters w moment) (hinOrder : InOrder w.state moment.label)
    (hstep : Timed.step parameters w moment = some w') :
    Consistent processes parameters w' := by
  obtain ⟨t, ht, hw'⟩ := Option.map_eq_some_iff.mp hstep
  have hordered : Ordered w'.state := by
    rw [← hw']
    exact ordered_step h.ordered hinOrder ht
  exact
    { ordered := hordered
      carried := carried_step h.carried (steps_of_timed hstep).1
      entered := fun _ hi => entered_step h hobserved hstep hi
      heard := fun _ _ hi => heard_step h hobserved hstep hi
      authentic := authentic_step h hobserved hordered hstep }

private theorem consistent_start (now : T) :
    Consistent processes parameters (Timed.start now) where
  ordered := ordered_start
  carried := ⟨by simp [Timed.start, Posix.start, Session.new],
    by simp [Timed.start, Posix.start, Session.new]⟩
  entered i hi := absurd rfl hi
  heard i answer hi := by cases hi
  authentic i answer hi := by cases hi

/-- For every timeline of processes, however calls, acceptor and skeletons interleave: if calls
read in order, the agent was asked about the process that ran when a call was entered that returned
normally. -/
theorem authentic_run {moments : List (Moment T)} {now : T}
    (hobserved : Transition.Meets (Timed.step parameters) (Observed processes parameters)
      (Timed.start now) moments)
    (hinOrder : Transition.Meets (Timed.step parameters)
      (fun w moment => InOrder w.state moment.label) (Timed.start now) moments)
    (hrun : Transition.run (Timed.step parameters) (Timed.start now) moments = some w) :
    Authentic processes parameters w := by
  have hconsistent := Transition.invariant_run
    (fun _ _ _ h hmoment hstep => consistent_step h hmoment.1 hmoment.2 hstep)
    (consistent_start now) (hobserved.and hinOrder) hrun
  exact hconsistent.authentic

end

/-- No two calls overlap: when one is entered, every other one has returned or is still to be
entered. -/
def Alone (s : State) : Label → Prop
  | .startTimeBeforeQuery i _ => ∀ j, j ≠ i →
    match s.calls j with
    | .entered | .finished _ => True
    | .timed _ | .resolved _ _ | .written _ _ | .answered _ _ => False
  | _ => True

/-- Every process runs until the time 20, when another one takes over its id. -/
def takeover : Processes Nat Bool where
  holder _ time := some (decide (20 ≤ time))
  stamp late := if late then 8 else 7
  absent := 0
  label late := if late then "other" else "app"
  interval := by
    intro _ a b c i hab hbc ha hc
    simp only [Option.some.injEq] at ha hc ⊢
    subst hc
    simp only [decide_eq_decide] at ha ⊢
    omega
  stamp_inj := by
    intro _ _ _ i j _ _ h
    cases i <;> cases j <;> first | rfl | exact absurd h (by decide)
  stamp_ne_absent _ _ _ _ _ h := by cases h

/-- A call is answered. -/
def answered : List (Moment Nat) :=
  [⟨0, .onNewSession none (.ok ⟨1000⟩)⟩, ⟨1, .startTimeBeforeQuery 0 (.ok 7)⟩,
    ⟨2, .resolveSession 0⟩, ⟨3, .write 0 none⟩, ⟨4, .onReadFinished 0 none⟩,
    ⟨5, .processIncomingRequest 0 (resolving (.ok "app"))⟩, ⟨6, .writeAnswer 0 none⟩,
    ⟨7, .read 0 none⟩, ⟨8, .startTimeAfterQuery 0 (.ok 7)⟩]

/-- A call is interrupted before it reads its answer, and the next call reads it. -/
def interrupted : List (Moment Nat) :=
  [⟨0, .onNewSession none (.ok ⟨1000⟩)⟩, ⟨1, .startTimeBeforeQuery 0 (.ok 7)⟩,
    ⟨2, .resolveSession 0⟩, ⟨3, .write 0 none⟩, ⟨4, .read 0 (some 4)⟩,
    ⟨5, .startTimeBeforeQuery 1 (.ok 7)⟩, ⟨6, .resolveSession 1⟩, ⟨7, .write 1 none⟩,
    ⟨8, .onReadFinished 0 none⟩, ⟨9, .processIncomingRequest 0 (resolving (.ok "app"))⟩,
    ⟨10, .writeAnswer 0 none⟩, ⟨11, .read 1 none⟩, ⟨12, .startTimeAfterQuery 1 (.ok 7)⟩]

private theorem observed_resolving {w : Timed Nat} {time : Nat} (hnow : w.now ≤ time)
    (htime : time < 20) (k : SessionId) :
    Observed takeover callers w ⟨time, .processIncomingRequest k (resolving (.ok "app"))⟩ := by
  refine ⟨hnow, fun pid x appId hx happId => ?_⟩
  cases happId
  cases hx
  have hearly : ¬20 ≤ time := by omega
  simp [takeover, hearly]

/-- The agent was asked about the process that ran when the call was entered. -/
theorem authentic_answered : ∃ w,
    Transition.run (Timed.step callers) (Timed.start 0) answered = some w ∧
      w.state.calls 0 = .finished (.ok .granted) ∧ Authentic takeover callers w := by
  refine ⟨_, rfl, rfl, ?_⟩
  have hrun : Transition.run (Timed.step callers) (Timed.start 0) answered = some _ := rfl
  refine authentic_run ?_ (by decide) hrun
  exact .cons ⟨by decide, trivial⟩ rfl <| .cons ⟨by decide, rfl⟩ rfl <|
    .cons ⟨by decide, trivial⟩ rfl <| .cons ⟨by decide, trivial⟩ rfl <|
    .cons ⟨by decide, trivial⟩ rfl <| .cons (observed_resolving (by decide) (by decide) 0) rfl <|
    .cons ⟨by decide, trivial⟩ rfl <| .cons ⟨by decide, trivial⟩ rfl <|
    .cons ⟨by decide, rfl⟩ rfl trivial

/-- Although no two calls overlap, the second one returns the answer to the first. The agent has
not been asked for the second. -/
theorem not_authentic_interrupted :
    Transition.Meets (Timed.step callers) (Observed takeover callers) (Timed.start 0)
      interrupted ∧
    Transition.Meets (Timed.step callers) (fun w moment => Alone w.state moment.label)
      (Timed.start 0) interrupted ∧
    ∃ w, Transition.run (Timed.step callers) (Timed.start 0) interrupted = some w ∧
      w.state.calls 1 = .finished (.ok .granted) ∧ w.asked 1 = none ∧
        ¬Authentic takeover callers w := by
  refine ⟨?_, ?_, _, rfl, rfl, rfl, ?_⟩
  · exact .cons ⟨by decide, trivial⟩ rfl <| .cons ⟨by decide, rfl⟩ rfl <|
      .cons ⟨by decide, trivial⟩ rfl <| .cons ⟨by decide, trivial⟩ rfl <|
      .cons ⟨by decide, trivial⟩ rfl <| .cons ⟨by decide, rfl⟩ rfl <|
      .cons ⟨by decide, trivial⟩ rfl <| .cons ⟨by decide, trivial⟩ rfl <|
      .cons ⟨by decide, trivial⟩ rfl <| .cons (observed_resolving (by decide) (by decide) 0) rfl <|
      .cons ⟨by decide, trivial⟩ rfl <| .cons ⟨by decide, trivial⟩ rfl <|
      .cons ⟨by decide, rfl⟩ rfl trivial
  · refine .cons trivial rfl <| .cons (fun _ _ => trivial) rfl <| .cons trivial rfl <|
      .cons trivial rfl <| .cons trivial rfl <| .cons (fun j _ => ?_) rfl <| .cons trivial rfl <|
      .cons trivial rfl <| .cons trivial rfl <| .cons trivial rfl <| .cons trivial rfl <|
      .cons trivial rfl <| .cons trivial rfl trivial
    cases j <;> trivial
  · intro h
    obtain ⟨_, asked, -, hasked, -⟩ := h 1 .granted rfl
    cases hasked

end TrustStore.Remote.Posix
