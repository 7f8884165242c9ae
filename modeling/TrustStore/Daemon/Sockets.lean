import TrustStore.Daemon.LastWord
import TrustStore.Remote.Registry
import TrustStore.Remote.Spoofing

/-!
# One socket for many users

The whole of a trust service on a unix socket, `src/core/trust/remote/posix.cpp`: one stub that
listens, and any number of daemons, each with its own database and its own user, that connect to it.
The stub asks the kernel who a peer is, so a request only ever comes to a daemon of its user. Calls,
connections and whatever happens to the daemons interleave in any way.
-/

namespace TrustStore.Daemon.Sockets

open TrustStore.Base
open TrustStore.Daemon.Decisions
open TrustStore.Remote.Posix (CallId SessionId AsyncError InOrder Ordered Routed Carried)
open TrustStore.AppIdFormattingTrustAgent (format)

/-- What a service on a socket consists of. Only daemons connect to it. -/
structure Service where
  setups : DaemonId → Setup
  /-- `i18n::tr` -/
  tr : String → String
  parameters : CallId → RequestParameters

/-- The skeleton that a daemon connects, where the resolvers return or throw something for the
process of the request at hand; `src/core/trust/daemon.cpp:171–185`. -/
def Service.skeleton (service : Service) (d : DaemonId) (dict : Dictionary)
    (startTime : Except Exception Int64) (appId : Except Exception String) :
    Remote.Posix.Skeleton.Configuration (History Exposed) where
  impl := (service.setups d).agent
  startTimeResolver _ := Fallible.ofFn fun h => (startTime, h)
  appIdResolver _ := Fallible.ofFn fun h => (appId, h)
  descriptionFormat := (dict "description-pattern").getD
    (service.tr "is trying to access" ++ " " ++ (service.setups d).forService ++ ".")
  verifyProcessStartTime := (dict "verify-process-timestamp").isSome

/-- A skeleton that does nothing but to end as it did. -/
def deciding (outcome : Except Exception Answer) :
    Remote.Posix.Skeleton.Configuration PUnit where
  impl _ := Fallible.ofFn fun s => (outcome, s)
  startTimeResolver _ := return 0
  appIdResolver _ := return ""
  descriptionFormat := ""
  verifyProcessStartTime := false

/-- The stub with its sessions, the daemons that are still at the other ends of them, and all
daemons. -/
structure State where
  stub : Remote.Posix.State
  serves : SessionId → Option DaemonId
  daemons : DaemonId → History Exposed

/-- A step of a call, of the acceptor or of a session, a daemon that connects, a daemon that
processes a request with what its resolvers return or throw, or an event of a daemon. -/
inductive Label where
  | onStub (label : Remote.Posix.Label)
  | connect (daemon : DaemonId)
  | processIncomingRequest (session : SessionId) (startTime : Except Exception Int64)
      (appId : Except Exception String)
  | onDaemon (daemon : DaemonId) (event : Event)

/-- Nothing is connected, and the daemons were just launched. -/
def start (dicts : DaemonId → Dictionary) (stores : DaemonId → Sqlite.Store) : State :=
  ⟨Remote.Posix.start, fun _ => none, fun d => launch (dicts d) (stores d)⟩

/-- A step of the stub and its sessions in which no daemon connects and no request is processed.
Nobody goes on with a session whose daemon is gone. -/
def State.allows (s : State) : Remote.Posix.Label → Bool
  | .processIncomingRequest .. | .onNewSession none (.ok _) => false
  | .onReadFinished k _ | .writeAnswer k _ => (s.serves k).isSome
  | .startTimeBeforeQuery .. | .resolveSession _ | .write .. | .read ..
  | .startTimeAfterQuery .. | .onNewSession .. => true

/-- A daemon that is restarted leaves its sessions. -/
def left (serves : SessionId → Option DaemonId) (d : DaemonId) :
    Event → SessionId → Option DaemonId
  | .restart _ => fun k => if serves k = some d then none else serves k
  | .request _ | .removeApplication _ | .reset => serves

variable (service : Service)

/-- One step of the system. -/
def step (s : State) : Label → Option State
  | .onStub label =>
    if s.allows label then
      (Remote.Posix.step service.parameters s.stub label).map fun stub => { s with stub }
    else none
  | .connect d =>
    (Remote.Posix.step service.parameters s.stub
      (.onNewSession none (.ok (service.setups d).uid))).map fun stub =>
        { s with
          stub := stub
          serves := Function.update s.serves s.stub.accepted (some d) }
  | .processIncomingRequest k startTime appId =>
    match s.serves k, (s.stub.sessions k).skeleton with
    | some d, .processing request =>
      if (service.setups d).running (s.daemons d) then
        let processed := (Remote.Posix.Skeleton.processIncomingRequest
          (service.skeleton d (s.daemons d).dict startTime appId) request.value).exec (s.daemons d)
        (Remote.Posix.step service.parameters s.stub
          (.processIncomingRequest k (deciding processed.1))).map fun stub =>
            { s with
              stub := stub
              daemons := Function.update s.daemons d processed.2 }
      else none
    | _, _ => none
  | .onDaemon d event =>
    ((service.setups d).step (s.daemons d) event).map fun h =>
      { s with
        serves := left s.serves d event
        daemons := Function.update s.daemons d h }

/-- Calls read in order, the requests that daemons look up have an application id and a feature that
can be stored, and the applications that are removed from their stores have an id. -/
def Proper (s : State) : Label → Prop
  | .onStub label => InOrder s.stub label
  | .connect _ => True
  | .processIncomingRequest k _ appId =>
    ∀ request id, (s.stub.sessions k).skeleton = .processing request → appId = .ok id →
      id ≠ "" ∧ Storable request.value.feature
  | .onDaemon d event => Admissible (s.daemons d) event

/-- The answer to a call was computed when a daemon of its user processed the request of this call,
which names its process, and is the last word of this user, at that moment, about the feature of the
application that was resolved for the process, unless this is on a white list. -/
def Vouched (dicts : DaemonId → Dictionary) (stores : DaemonId → Sqlite.Store) (ls : List Label)
    (i : CallId) (answer : Answer) : Prop :=
  ∃ before after k startTime id d request s s',
    ls = before ++ .processIncomingRequest k startTime (.ok id) :: after ∧
    Transition.run (step service) (start dicts stores) before = some s ∧
    step service s (.processIncomingRequest k startTime (.ok id)) = some s' ∧
    (s.stub.sessions k).skeleton = .processing request ∧ request.call = i ∧
    request.value.appPid = (service.parameters i).application.pid ∧
    s'.stub.fates i = .computed answer ∧
    s.serves k = some d ∧ (service.setups d).uid = (service.parameters i).application.uid ∧
    (Unlisted id → LastWord (service.setups d).user (decisions (stores d)) (format id)
      (service.parameters i).feature answer (s'.daemons d).state.store.prompts)

variable {service} {s t : State} {label : Label}

/-! ### One request -/

/-- How a daemon processes a request: as one of its events, if it comes that far. -/
inductive Processed (setup : Setup) (request : Remote.Posix.Request)
    (appId : Except Exception String) (h : History Exposed) :
    Except Exception Answer → History Exposed → Prop
  | asked {params h' result} (hid : appId = .ok params.application.id)
      (hfeature : params.feature = request.feature)
      (hstep : setup.step h (.request params) = some h')
      (hlast : h'.results.getLast? = some (params, result)) :
      Processed setup request appId h result h'
  | refused {e} : Processed setup request appId h (.error e) h

private theorem resolved {setup : Setup} {h : History Exposed} (hrunning : setup.running h)
    {config : Remote.Posix.Skeleton.Configuration (History Exposed)}
    (himpl : config.impl = setup.agent)
    {request : Remote.Posix.Request} {appId : Except Exception String}
    (happId : (config.appIdResolver request.appPid).exec h = (appId, h)) :
    Processed setup request appId h
      ((do
        let id ← config.appIdResolver request.appPid
        config.impl ⟨⟨request.appUid, request.appPid, id⟩, request.feature,
          config.descriptionFormat⟩ : Action _ _).exec h).1
      ((do
        let id ← config.appIdResolver request.appPid
        config.impl ⟨⟨request.appUid, request.appPid, id⟩, request.feature,
          config.descriptionFormat⟩ : Action _ _).exec h).2 := by
  cases appId with
  | error e =>
    rw [Fallible.exec_bind_error happId]
    exact .refused
  | ok id =>
    obtain ⟨result, h', hexec, hstep, hlast⟩ := Setup.agent_exec hrunning
      ⟨⟨request.appUid, request.appPid, id⟩, request.feature, config.descriptionFormat⟩
    rw [Fallible.exec_bind_ok happId, himpl, hexec]
    exact .asked rfl rfl hstep hlast

private theorem processed {setup : Setup} {h : History Exposed} (hrunning : setup.running h)
    {config : Remote.Posix.Skeleton.Configuration (History Exposed)}
    (himpl : config.impl = setup.agent)
    {request : Remote.Posix.Request} {startTime : Except Exception Int64}
    {appId : Except Exception String}
    (hstartTime : (config.startTimeResolver request.appPid).exec h = (startTime, h))
    (happId : (config.appIdResolver request.appPid).exec h = (appId, h)) :
    Processed setup request appId h
      ((Remote.Posix.Skeleton.processIncomingRequest config request).exec h).1
      ((Remote.Posix.Skeleton.processIncomingRequest config request).exec h).2 := by
  rw [Remote.Posix.Skeleton.processIncomingRequest]
  cases config.verifyProcessStartTime with
  | false => exact resolved hrunning himpl happId
  | true =>
    rw [if_pos rfl]
    cases startTime with
    | error e =>
      rw [Fallible.exec_bind_error hstartTime]
      exact .refused
    | ok time =>
      rw [Fallible.exec_bind_ok hstartTime]
      by_cases htime : time = request.appStartTime
      · rw [if_neg (not_not_intro htime)]
        exact resolved hrunning himpl happId
      · rw [if_pos htime]
        exact .refused

private theorem deciding_exec (outcome : Except Exception Answer) (request : Remote.Posix.Request) :
    ((Remote.Posix.Skeleton.processIncomingRequest (deciding outcome) request).exec ⟨⟩).1 =
      outcome := by
  simp [Remote.Posix.Skeleton.processIncomingRequest, deciding]

/-- The cases of a step. -/
inductive Steps (service : Service) (s : State) : Label → State → Prop
  | onStub {label stub} (hallows : s.allows label)
      (hstub : Remote.Posix.step service.parameters s.stub label = some stub) :
      Steps service s (.onStub label) { s with stub }
  | connect {d stub} (hstub : Remote.Posix.step service.parameters s.stub
        (.onNewSession none (.ok (service.setups d).uid)) = some stub) :
      Steps service s (.connect d)
        { s with
          stub := stub
          serves := Function.update s.serves s.stub.accepted (some d) }
  | processIncomingRequest {k startTime appId d request outcome h stub}
      (hserves : s.serves k = some d)
      (hskeleton : (s.stub.sessions k).skeleton = .processing request)
      (hprocessed : Processed (service.setups d) request.value appId (s.daemons d) outcome h)
      (hstub : Remote.Posix.step service.parameters s.stub
        (.processIncomingRequest k (deciding outcome)) = some stub) :
      Steps service s (.processIncomingRequest k startTime appId)
        { s with
          stub := stub
          daemons := Function.update s.daemons d h }
  | onDaemon {d event h} (hdaemon : (service.setups d).step (s.daemons d) event = some h) :
      Steps service s (.onDaemon d event)
        { s with
          serves := left s.serves d event
          daemons := Function.update s.daemons d h }

/-- Every step is one of the cases. -/
theorem steps_of_step (h : step service s label = some t) : Steps service s label t := by
  cases label with
  | onStub label =>
    rw [step] at h
    split at h
    next hallows =>
      obtain ⟨stub, hstub, rfl⟩ := Option.map_eq_some_iff.mp h
      exact .onStub hallows hstub
    next => cases h
  | connect d =>
    obtain ⟨stub, hstub, rfl⟩ := Option.map_eq_some_iff.mp h
    exact .connect hstub
  | processIncomingRequest k startTime appId =>
    rw [step] at h
    split at h
    next d request hserves hskeleton =>
      split at h
      next hrunning =>
        obtain ⟨stub, hstub, rfl⟩ := Option.map_eq_some_iff.mp h
        exact .processIncomingRequest hserves hskeleton (processed hrunning rfl rfl rfl) hstub
      next => cases h
    next => cases h
  | onDaemon d event =>
    obtain ⟨h', hdaemon, rfl⟩ := Option.map_eq_some_iff.mp h
    exact .onDaemon hdaemon

/-! ### The daemons -/

private theorem admissible_of_proper {k : SessionId} {startTime : Except Exception Int64}
    {appId : Except Exception String} {request : Remote.Posix.Tagged Remote.Posix.Request}
    {params : RequestParameters}
    (hproper : Proper s (.processIncomingRequest k startTime appId))
    (hskeleton : (s.stub.sessions k).skeleton = .processing request)
    (hid : appId = .ok params.application.id) (hfeature : params.feature = request.value.feature)
    (h : History Exposed) : Admissible h (.request params) := by
  have hparams := hproper request _ hskeleton hid
  rw [← hfeature] at hparams
  exact .inr hparams

/-- What the daemons have decided stays the last word. -/
private theorem allShown_step {stores : DaemonId → Sqlite.Store}
    (hshown : AllShown service.setups stores s.daemons) (hproper : Proper s label)
    (hstep : Steps service s label t) : AllShown service.setups stores t.daemons := by
  cases hstep with
  | onStub => exact hshown
  | connect => exact hshown
  | onDaemon hdaemon => exact hshown.update (shown_step (hshown _) hproper hdaemon)
  | processIncomingRequest hserves hskeleton hprocessed hstub =>
    refine hshown.update ?_
    cases hprocessed with
    | asked hid hfeature hrequest =>
      exact shown_step (hshown _) (admissible_of_proper hproper hskeleton hid hfeature _) hrequest
    | refused => exact hshown _

/-! ### The stub and its sessions -/

/-- A skeleton only has requests of its own user at hand. -/
private def Own (s : Remote.Posix.State) : Prop :=
  ∀ k request, (s.sessions k).skeleton = .processing request →
    request.value.appUid = (s.sessions k).peer

section Own

variable {u v : Remote.Posix.State}

private theorem own_onSession (h : Own u) {k : SessionId} {session : Remote.Posix.Session}
    (hsessions : v.sessions = Function.update u.sessions k session)
    (hown : ∀ request, session.skeleton = .processing request →
      request.value.appUid = session.peer) : Own v := by
  intro j request hj
  rw [hsessions] at hj ⊢
  by_cases hjk : j = k
  · subst hjk
    rw [Function.update_self] at hj ⊢
    exact hown request hj
  · rw [Function.update_of_ne hjk] at hj ⊢
    exact h j request hj

private theorem own_onNewSession (h : Own u) (ec : Option AsyncError)
    (peer : Except Exception Uid) : Own (u.onNewSession ec peer) := by
  cases ec with
  | some e => cases e <;> exact h
  | none =>
    cases peer with
    | error e => exact h
    | ok uid => exact own_onSession h rfl (by simp [Remote.Posix.Session.new])

private theorem own_step {label : Remote.Posix.Label} (hrouted : Routed service.parameters u)
    (h : Own u) (hstep : Remote.Posix.Steps service.parameters u label v) : Own v := by
  cases hstep with
  | onNewSession => exact own_onNewSession h _ _
  | @write i k => exact own_onSession h rfl (h k)
  | @read i k => exact own_onSession h rfl (h k)
  | writeFails | readFails =>
    intro k request hk
    rw [Remote.Posix.State.handleErrorFromSocketOperationForUid_sessions] at hk ⊢
    exact h k request hk
  | @onReadFinished k request requests hk hskeleton hrequests =>
    refine own_onSession h rfl fun r hr => ?_
    cases hr
    exact hrouted.requests k request (by rw [hrequests]; exact List.mem_cons_self)
  | onReadAborted => exact own_onSession h rfl (by simp)
  | processIncomingRequest => exact own_onSession h rfl (by simp)
  | processIncomingRequestThrows => exact own_onSession h rfl (by simp)
  | writeAnswer => exact own_onSession h rfl (by simp)
  | writeAnswerFails => exact own_onSession h rfl (by simp)
  | startTimeBeforeQuery | startTimeBeforeQueryThrows | resolveSession | resolveSessionThrows
  | startTimeAfterQuery | startTimeAfterQueryDiffers | startTimeAfterQueryThrows | onReadFails =>
    exact h

end Own

/-- What holds of the stub and of the requests and the answers in its sessions. -/
private structure Wired (parameters : CallId → RequestParameters) (s : Remote.Posix.State) :
    Prop where
  ordered : Ordered s
  routed : Routed parameters s
  carried : Carried parameters s
  own : Own s

private theorem wired_step {u v : Remote.Posix.State} {label : Remote.Posix.Label}
    (h : Wired service.parameters u)
    (hstep : Remote.Posix.step service.parameters u label = some v) (hinOrder : InOrder u label) :
    Wired service.parameters v where
  ordered := Remote.Posix.ordered_step h.ordered hinOrder hstep
  routed := Remote.Posix.routed_step h.routed hstep
  carried := Remote.Posix.carried_step h.carried (Remote.Posix.steps_of_step hstep)
  own := own_step h.routed h.own (Remote.Posix.steps_of_step hstep)

private theorem wired_start (parameters : CallId → RequestParameters) :
    Wired parameters Remote.Posix.start where
  ordered := Remote.Posix.ordered_start
  routed := ⟨by simp [Remote.Posix.start],
    by simp [Remote.Posix.start, Remote.Posix.Progress.session],
    by simp [Remote.Posix.start, Remote.Posix.Session.new]⟩
  carried := ⟨by simp [Remote.Posix.start, Remote.Posix.Session.new],
    by simp [Remote.Posix.start, Remote.Posix.Session.new]⟩
  own := by simp [Own, Remote.Posix.start, Remote.Posix.Session.new]

/-- A daemon only has sessions of its user. -/
private def Served (service : Service) (s : State) : Prop :=
  ∀ k d, s.serves k = some d →
    k < s.stub.accepted ∧ (s.stub.sessions k).peer = (service.setups d).uid

private theorem left_some {serves : SessionId → Option DaemonId} {d e : DaemonId} {event : Event}
    {k : SessionId} (h : left serves d event k = some e) : serves k = some e := by
  cases event with
  | restart dict =>
    simp only [left] at h
    split at h
    · cases h
    · exact h
  | request | removeApplication | reset => exact h

private theorem served_samePeers (h : Served service s)
    (hstub : Remote.Posix.SamePeers s.stub t.stub)
    (hserves : ∀ k d, t.serves k = some d → s.serves k = some d) : Served service t := by
  intro k d hk
  rw [hstub.accepted, hstub.peer]
  exact h k d (hserves k d hk)

private theorem served_step (h : Served service s) (hstep : Steps service s label t) :
    Served service t := by
  cases hstep with
  | @onStub label stub hallows hstub =>
    rcases Remote.Posix.registry_cases (Remote.Posix.steps_of_step hstub) with
      ⟨uid, rfl, -⟩ | ⟨hsame, -⟩
    · cases hallows
    · exact served_samePeers h hsame fun _ _ => id
  | processIncomingRequest hserves hskeleton hprocessed hstub =>
    rcases Remote.Posix.registry_cases (Remote.Posix.steps_of_step hstub) with
      ⟨uid, hlabel, -⟩ | ⟨hsame, -⟩
    · cases hlabel
    · exact served_samePeers h hsame fun _ _ => id
  | onDaemon => exact fun k d hk => h k d (left_some hk)
  | @connect d stub hstub =>
    cases Remote.Posix.steps_of_step hstub with
    | onNewSession =>
      intro k e hk
      have hsessions : (s.stub.onNewSession none (.ok (service.setups d).uid)).sessions =
          Function.update s.stub.sessions s.stub.accepted
            (Remote.Posix.Session.new (service.setups d).uid) := rfl
      rw [hsessions]
      by_cases hnew : k = s.stub.accepted
      · subst hnew
        cases (Function.update_self ..).symm.trans hk
        rw [Function.update_self]
        exact ⟨Nat.lt_succ_self _, rfl⟩
      · obtain ⟨hlt, hpeer⟩ := h k e ((Function.update_of_ne hnew ..).symm.trans hk)
        rw [Function.update_of_ne hnew]
        exact ⟨Nat.lt_succ_of_lt hlt, hpeer⟩

/-! ### Whole runs -/

section Answers

variable {dicts : DaemonId → Dictionary} {stores : DaemonId → Sqlite.Store} {ls : List Label}
  {i : CallId} {answer : Answer}

private theorem Vouched.concat (h : Vouched service dicts stores ls i answer) (label : Label) :
    Vouched service dicts stores (ls ++ [label]) i answer := by
  obtain ⟨before, after, k, startTime, id, d, request, s, s', rfl, h⟩ := h
  exact ⟨before, after ++ [label], k, startTime, id, d, request, s, s', List.append_assoc .., h⟩

/-- An answer that is computed for a call is vouched for. -/
private theorem vouched_step (hrun : Transition.run (step service) (start dicts stores) ls = some s)
    (hwired : Wired service.parameters s.stub) (hserved : Served service s)
    (hshown : AllShown service.setups stores s.daemons) (hproper : Proper s label)
    (hstep : step service s label = some t)
    (h : s.stub.fates i = .computed answer → Vouched service dicts stores ls i answer)
    (hanswer : t.stub.fates i = .computed answer) :
    Vouched service dicts stores (ls ++ [label]) i answer := by
  cases steps_of_step hstep with
  | @onStub label stub hallows hstub =>
    rcases Remote.Posix.fates_of_steps (Remote.Posix.steps_of_step hstub) hanswer with
      hold | ⟨k, config, request, rfl, -⟩
    · exact (h hold).concat _
    · cases hallows
  | connect hstub =>
    rcases Remote.Posix.fates_of_steps (Remote.Posix.steps_of_step hstub) hanswer with
      hold | ⟨k, config, request, hlabel, -⟩
    · exact (h hold).concat _
    · cases hlabel
  | onDaemon => exact (h hanswer).concat _
  | @processIncomingRequest k startTime appId d request outcome h' stub hserves hskeleton
      hprocessed hstub =>
    cases Remote.Posix.steps_of_step hstub with
    | processIncomingRequestThrows => exact (h hanswer).concat _
    | @processIncomingRequest _ _ request' answered hskeleton' hanswered =>
      cases hskeleton.symm.trans hskeleton'
      rw [deciding_exec] at hanswered
      cases hanswered
      have hfate := hanswer
      rw [Remote.Posix.State.track_fates, Remote.Posix.State.onSkeleton_fates,
        Function.update_apply] at hfate
      split at hfate
      next hcall =>
        subst hcall
        cases hfate
        obtain ⟨huid, hpid, hfeature⟩ := hwired.carried.processing k request hskeleton
        cases hprocessed with
        | @asked params _ _ hid hfeature' hrequest hlast =>
          cases hid
          refine ⟨ls, [], k, startTime, _, d, request, s, _, rfl, hrun, hstep, hskeleton, rfl, hpid,
            hanswer, hserves, ?_, ?_⟩
          · rw [← (hserved k d hserves).2, ← hwired.own k request hskeleton, huid]
          · intro hunlisted
            simp only [Function.update_self, ← hfeature, ← hfeature']
            exact shown_lastWord (hshown d)
              (admissible_of_proper hproper hskeleton rfl hfeature' _) hrequest hunlisted hlast
      next => exact (h hfate).concat _

end Answers

/-- Daemons of two users, and a call for the one who has the daemon 8. -/
def household : Service where
  setups d := { camera with uid := if d = 8 then ⟨2000⟩ else ⟨1000⟩ }
  tr := id
  parameters _ := ⟨⟨⟨2000⟩, ⟨42⟩, ""⟩, ⟨1⟩, ""⟩

/-- Both daemons connect, and the first one is restarted while the call is answered. -/
def reconnected : List Label :=
  [.connect 7, .connect 8, .onStub (.startTimeBeforeQuery 0 (.ok 5)), .onStub (.resolveSession 0),
    .onStub (.write 0 none), .onStub (.onReadFinished 1 none), .onDaemon 7 (.restart sockets),
    .processIncomingRequest 1 (.ok 5) (.ok "org.app_app_1.0"), .onStub (.writeAnswer 1 none),
    .connect 7, .onStub (.read 0 none), .onStub (.startTimeAfterQuery 0 (.ok 5))]

end TrustStore.Daemon.Sockets
