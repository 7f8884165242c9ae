import TrustStore.Daemon.LastWord
import TrustStore.Dbus.Agent
import TrustStore.Remote.Dbus

/-!
# Many users

The whole of a trust service for many users, `src/core/trust/remote/dbus.cpp:37–107`: one stub, on
which applications make calls, and any number of daemons, each with its own database and its own
user, that register themselves with the stub and answer it over the bus. Calls, registrations and
whatever happens to the daemons interleave in any way, and calls on the bus may time out.
-/

namespace TrustStore.Daemon.MultiUser

open TrustStore.Base
open TrustStore.Daemon.Decisions
open TrustStore.Dbus.Agent (Delivery carried)
open TrustStore.Remote.Dbus.Stub (CallId)
open TrustStore.AppIdFormattingTrustAgent (format)

/-- What a service for many users consists of. -/
structure Service where
  setups : DaemonId → Setup
  /-- the bus that the daemons answer the stub on -/
  bus : Dbus.Agent.Bus
  parameters : CallId → RequestParameters

/-- The stub and the daemons. -/
structure State where
  stub : Remote.Dbus.Stub.State DaemonId
  daemons : DaemonId → History Exposed

/-- A step of the stub, an agent that is asked over the bus, or an event of a daemon. -/
inductive Label where
  | onStub (label : Remote.Dbus.Stub.Label DaemonId)
  | authenticate (call : CallId) (delivery : Delivery)
  | onDaemon (daemon : DaemonId) (event : Event)

/-- Nobody is registered, and the daemons were just launched. -/
def start (dicts : DaemonId → Dictionary) (stores : DaemonId → Sqlite.Store) : State :=
  ⟨Remote.Dbus.Stub.start DaemonId, fun d => launch (dicts d) (stores d)⟩

variable (service : Service)

/-- One step of the system; `src/core/trust/remote/dbus.cpp:37–45`. -/
def step (s : State) : Label → Option State
  | .onStub (.authenticate ..) => none
  | .onStub label =>
    (Remote.Dbus.Stub.step service.parameters s.stub label).map fun stub => { s with stub }
  | .authenticate i delivery =>
    match s.stub.calls i with
    | .resolved d =>
      if delivery.reaches → (service.setups d).running (s.daemons d) then
        let asked := (Dbus.Agent.Stub.authenticateRequestWithParameters service.bus
          (service.setups d).agent delivery (service.parameters i)).exec (s.daemons d)
        (Remote.Dbus.Stub.step service.parameters s.stub (.authenticate i asked.1)).map fun stub =>
          ⟨stub, Function.update s.daemons d asked.2⟩
      else none
    | _ => none
  | .onDaemon d event =>
    ((service.setups d).step (s.daemons d) event).map fun h =>
      { s with daemons := Function.update s.daemons d h }

/-- The requests that daemons look up have an application id and a feature that can be stored, and
the applications that are removed from their stores have an id. -/
def Proper (s : State) : Label → Prop
  | .onStub _ => True
  | .authenticate i _ =>
    (service.parameters i).application.id ≠ "" ∧ Storable (service.parameters i).feature
  | .onDaemon d event => Admissible (s.daemons d) event

/-- At some moment of the run the call was being made and this daemon, or none, was registered for
its user. -/
def During (s : State) (ls : List Label) (i : CallId) (found : Option DaemonId) : Prop :=
  Transition.Visits (step service)
    (fun s => (s.stub.calls i).ongoing ∧
      s.stub.agentRegistry (service.parameters i).application.uid = found) s ls

/-- A call was answered by a daemon that was registered for its user while the call was made, and
the answer was the last word of the user of that daemon, at that moment, about the feature of the
application, whatever its version. -/
def Vouched (dicts : DaemonId → Dictionary) (stores : DaemonId → Sqlite.Store) (ls : List Label)
    (i : CallId) (answer : Answer) : Prop :=
  ∃ before after d s,
    ls = before ++ .authenticate i .replied :: after ∧
    During service (start dicts stores) before i (some d) ∧
    Transition.run (step service) (start dicts stores) (before ++ [.authenticate i .replied]) =
      some s ∧
    LastWord (service.setups d).user (decisions (stores d))
      (format (service.parameters i).application.id) (service.parameters i).feature answer
      (s.daemons d).state.store.prompts

variable {service} {s t : State} {label : Label}

/-! ### One step -/

/-- What asking a daemon for a call does to it, and how it ends for the stub. -/
inductive Asked (setup : Setup) (bus : Dbus.Agent.Bus) (params : RequestParameters)
    (h : History Exposed) : Delivery → Except Exception Answer → History Exposed → Prop
  | replied {h' result} (hstep : setup.step h (.request params) = some h')
      (hlast : h'.results.getLast? = some (params, result)) :
      Asked setup bus params h .replied (carried bus result) h'
  | timedOut {h'} (hstep : setup.step h (.request params) = some h') :
      Asked setup bus params h .timedOut (.error (.runtimeError bus.noReply)) h'
  | undelivered {what} :
      Asked setup bus params h (.undelivered what) (.error (.runtimeError what)) h

private theorem asked {setup : Setup} {bus : Dbus.Agent.Bus} {params : RequestParameters}
    {h : History Exposed} {delivery : Delivery} (hrunning : delivery.reaches → setup.running h) :
    Asked setup bus params h delivery
      ((Dbus.Agent.Stub.authenticateRequestWithParameters bus setup.agent delivery
        params).exec h).1
      ((Dbus.Agent.Stub.authenticateRequestWithParameters bus setup.agent delivery
        params).exec h).2 := by
  cases delivery with
  | replied =>
    obtain ⟨result, h', hexec, hstep, hlast⟩ := Setup.agent_exec (hrunning rfl) params
    rw [Dbus.Agent.Stub.replied_exec hexec]
    exact .replied hstep hlast
  | timedOut =>
    obtain ⟨result, h', hexec, hstep, -⟩ := Setup.agent_exec (hrunning rfl) params
    rw [Dbus.Agent.Stub.timedOut_exec hexec]
    exact .timedOut hstep
  | undelivered what => exact .undelivered

/-- The cases of a step. -/
inductive Steps (service : Service) (s : State) : Label → State → Prop
  | onStub {label stub} (hstub : Remote.Dbus.Stub.Steps service.parameters s.stub label stub)
      (hother : ∀ i outcome, label ≠ .authenticate i outcome) :
      Steps service s (.onStub label) { s with stub }
  | authenticate {i d delivery outcome h stub} (hcall : s.stub.calls i = .resolved d)
      (hasked : Asked (service.setups d) service.bus (service.parameters i) (s.daemons d) delivery
        outcome h)
      (hstub : Remote.Dbus.Stub.Steps service.parameters s.stub (.authenticate i outcome) stub) :
      Steps service s (.authenticate i delivery) ⟨stub, Function.update s.daemons d h⟩
  | onDaemon {d event h} (hdaemon : (service.setups d).step (s.daemons d) event = some h) :
      Steps service s (.onDaemon d event) { s with daemons := Function.update s.daemons d h }

/-- Every step is one of the cases. -/
theorem steps_of_step (h : step service s label = some t) : Steps service s label t := by
  cases label with
  | onStub label =>
    cases label with
    | authenticate i outcome => cases h
    | registerAgentForUser | unregisterAgentForUser | enter | hasAgentForUser | agentForUser =>
      simp only [step] at h
      obtain ⟨stub, hstub, rfl⟩ := Option.map_eq_some_iff.mp h
      exact .onStub (Remote.Dbus.Stub.steps_of_step hstub) fun _ _ hlabel => by cases hlabel
  | authenticate i delivery =>
    rw [step] at h
    split at h
    next d hcall =>
      split at h
      next hrunning =>
        obtain ⟨stub, hstub, rfl⟩ := Option.map_eq_some_iff.mp h
        exact .authenticate hcall (asked hrunning) (Remote.Dbus.Stub.steps_of_step hstub)
      next => cases h
    next => cases h
  | onDaemon d event =>
    obtain ⟨h', hdaemon, rfl⟩ := Option.map_eq_some_iff.mp h
    exact .onDaemon hdaemon

/-! ### The daemons -/

private theorem admissible_of_proper {i : CallId} {delivery : Delivery}
    (h : Proper service s (.authenticate i delivery)) (history : History Exposed) :
    Admissible history (.request (service.parameters i)) := Or.inr h

/-- What the daemons have decided stays the last word. -/
private theorem allShown_step {stores : DaemonId → Sqlite.Store}
    (hshown : AllShown service.setups stores s.daemons) (hproper : Proper service s label)
    (hstep : Steps service s label t) : AllShown service.setups stores t.daemons := by
  cases hstep with
  | onStub => exact hshown
  | onDaemon hdaemon => exact hshown.update (shown_step (hshown _) hproper hdaemon)
  | authenticate hcall hasked hstub =>
    refine hshown.update ?_
    cases hasked with
    | replied hrequest | timedOut hrequest =>
      exact shown_step (hshown _) (admissible_of_proper hproper _) hrequest
    | undelivered => exact hshown _

/-! ### Whole runs -/

/-- A call that is answered was answered rightly. -/
private def Answered (service : Service) (dicts : DaemonId → Dictionary)
    (stores : DaemonId → Sqlite.Store) (ls : List Label) (i : CallId) (answer : Answer) : Prop :=
  answer = .denied ∧ During service (start dicts stores) ls i none ∨
    Vouched service dicts stores ls i answer

private theorem Answered.concat {dicts : DaemonId → Dictionary} {stores : DaemonId → Sqlite.Store}
    {ls : List Label} {i : CallId} {answer : Answer}
    (h : Answered service dicts stores ls i answer) (label : Label) :
    Answered service dicts stores (ls ++ [label]) i answer := by
  rcases h with ⟨hdenied, hduring⟩ | ⟨before, after, d, s, rfl, hduring, hrun, hword⟩
  · exact .inl ⟨hdenied, hduring.append [label]⟩
  · exact .inr ⟨before, after ++ [label], d, s, List.append_assoc .., hduring, hrun, hword⟩

/-- What is known about a call. -/
private def Known (service : Service) (dicts : DaemonId → Dictionary)
    (stores : DaemonId → Sqlite.Store) (ls : List Label) (s : State) (i : CallId) : Prop :=
  (∀ d, s.stub.calls i = .resolved d → During service (start dicts stores) ls i (some d)) ∧
    (∀ answer, s.stub.calls i = .finished (.ok answer) →
      Answered service dicts stores ls i answer)

section Calls

variable {dicts : DaemonId → Dictionary} {stores : DaemonId → Sqlite.Store} {ls : List Label}
  {i : CallId}

private theorem known_frame (h : Known service dicts stores ls s i)
    (hcalls : t.stub.calls i = s.stub.calls i) (label : Label) :
    Known service dicts stores (ls ++ [label]) t i := by
  rw [Known, hcalls]
  exact ⟨fun d hd => (h.1 d hd).append [label],
    fun answer hanswer => (h.2 answer hanswer).concat label⟩

/-- What is known about a call stays known with the steps that its stub takes for it. -/
private theorem known_onStub {label : Remote.Dbus.Stub.Label DaemonId}
    {stub : Remote.Dbus.Stub.State DaemonId}
    (hrun : Transition.run (step service) (start dicts stores) ls = some s)
    (hstub : Remote.Dbus.Stub.Steps service.parameters s.stub label stub)
    (hother : ∀ i outcome, label ≠ .authenticate i outcome) (hi : label.call = some i) :
    Known service dicts stores (ls ++ [.onStub label]) { s with stub } i := by
  have hduring : (s.stub.calls i).ongoing → During service (start dicts stores)
      (ls ++ [.onStub label]) i
      (s.stub.agentRegistry (service.parameters i).application.uid) := fun hongoing =>
    Transition.Visits.append (.last hrun ⟨hongoing, rfl⟩) [.onStub label]
  cases hstub with
  | registerAgentForUser | unregisterAgentForUser => cases hi
  | authenticate => exact absurd rfl (hother _ _)
  | enter | hasAgentForUser | agentForUserThrows =>
    cases hi
    simp [Known, Remote.Dbus.Stub.State.goOn]
  | hasNoAgentForUser hentered hnone =>
    cases hi
    rw [hentered, hnone] at hduring
    refine ⟨by simp [Remote.Dbus.Stub.State.goOn], fun answer hanswer => ?_⟩
    simp only [Remote.Dbus.Stub.State.goOn, Function.update_self] at hanswer
    cases hanswer
    exact .inl ⟨rfl, hduring rfl⟩
  | agentForUser hchecked hagent =>
    cases hi
    rw [hchecked, hagent] at hduring
    refine ⟨fun d hd => ?_, by simp [Remote.Dbus.Stub.State.goOn]⟩
    simp only [Remote.Dbus.Stub.State.goOn, Function.update_self] at hd
    cases hd
    exact hduring rfl

/-- The answer of a daemon to a call is the last word of its user. -/
private theorem known_authenticate {delivery : Delivery}
    (hrun : Transition.run (step service) (start dicts stores) ls = some s)
    (hshown : AllShown service.setups stores s.daemons) (hknown : Known service dicts stores ls s i)
    (hunlisted : Unlisted (service.parameters i).application.id)
    (hproper : Proper service s (.authenticate i delivery))
    (hstep : step service s (.authenticate i delivery) = some t) :
    Known service dicts stores (ls ++ [.authenticate i delivery]) t i := by
  have hrun' := Transition.run_concat hrun hstep
  cases steps_of_step hstep with
  | @authenticate _ d _ outcome h stub hcall hasked hstub =>
  cases hstub with
  | authenticate =>
  refine ⟨by simp [Remote.Dbus.Stub.State.goOn], fun answer hanswer => ?_⟩
  simp only [Remote.Dbus.Stub.State.goOn, Function.update_self] at hanswer
  cases hasked with
  | timedOut | undelivered => cases hanswer
  | @replied _ result hrequest hlast =>
    cases result with
    | error e => cases hanswer
    | ok answered =>
      cases hanswer
      refine .inr ⟨ls, [], d, _, rfl, hknown.1 d hcall, hrun', ?_⟩
      simp only [Function.update_self]
      exact shown_lastWord (hshown d) (admissible_of_proper hproper _) hrequest hunlisted hlast

/-- What is known about a call stays known with any step. -/
private theorem known_step
    (hrun : Transition.run (step service) (start dicts stores) ls = some s)
    (hshown : AllShown service.setups stores s.daemons) (hknown : Known service dicts stores ls s i)
    (hunlisted : Unlisted (service.parameters i).application.id)
    (hproper : Proper service s label) (hstep : step service s label = some t) :
    Known service dicts stores (ls ++ [label]) t i := by
  cases hsteps : steps_of_step hstep with
  | onDaemon => exact known_frame hknown rfl _
  | @onStub label stub hstub hother =>
    by_cases hi : label.call = some i
    · exact known_onStub hrun hstub hother hi
    · exact known_frame hknown (hstub.frame hi).1 _
  | @authenticate j d delivery outcome h stub hcall hasked hstub =>
    by_cases hi : j = i
    · subst hi
      exact known_authenticate hrun hshown hknown hunlisted hproper hstep
    · exact known_frame hknown (hstub.frame fun h => hi (Option.some.inj h)).1 _

end Calls

/-- In every proper run of a service for many users, however calls, registrations, requests,
revocations and restarts interleave, a call for an application that is on no white list is answered
by a daemon that was registered for its user while the call was made, with the last word of the user
of that daemon, or else it is denied and there was a moment during the call when its user had no
daemon. -/
theorem answered_run {dicts : DaemonId → Dictionary} {stores : DaemonId → Sqlite.Store}
    {ls : List Label} {i : CallId} {answer : Answer} (hstores : ∀ d, AtRest (stores d))
    (hproper : Transition.Meets (step service) (Proper service) (start dicts stores) ls)
    (hrun : Transition.run (step service) (start dicts stores) ls = some s)
    (hunlisted : Unlisted (service.parameters i).application.id)
    (hanswer : s.stub.calls i = .finished (.ok answer)) :
    answer = .denied ∧ During service (start dicts stores) ls i none ∨
      Vouched service dicts stores ls i answer := by
  have hkeeps : ∀ before r label u,
      (Transition.run (step service) (start dicts stores) before = some r ∧
        AllShown service.setups stores r.daemons ∧ Known service dicts stores before r i) →
      Proper service r label → step service r label = some u →
        Transition.run (step service) (start dicts stores) (before ++ [label]) = some u ∧
          AllShown service.setups stores u.daemons ∧
            Known service dicts stores (before ++ [label]) u i := by
    rintro before r label u ⟨hbefore, hshown, hknown⟩ hproper hstep
    exact ⟨Transition.run_concat hbefore hstep, allShown_step hshown hproper (steps_of_step hstep),
      known_step hbefore hshown hknown hunlisted hproper hstep⟩
  have hstart : Known service dicts stores [] (start dicts stores) i :=
    ⟨nofun, nofun⟩
  have hknown := Transition.invariant_run_history hkeeps
    ⟨rfl, fun d => shown_launch (hstores d) (dicts d), hstart⟩ hproper hrun
  exact hknown.2.2.2 answer hanswer

/-- Daemons for the camera that are asked over a bus, by an application that was just updated. -/
def cameras : Service where
  setups _ := { camera with remoteAgent := "DBusRemoteAgent" }
  bus := ⟨fun name what => name ++ ": " ++ what, "No reply"⟩
  parameters i := requestOf (if i = 0 then "1.0" else "2.0") ⟨1⟩

/-- The remaining options of the daemons. -/
def onBus : Dictionary := fun key =>
  if key = "bus" then some "system"
  else if key = "trusted-mir-socket" then some "/tmp/mir"
  else none

/-- A call times out, and is made again while the daemon is restarted and unregistered. -/
def retried : List Label :=
  [.onStub (.registerAgentForUser ⟨1000⟩ 7), .onStub (.enter 0), .onStub (.hasAgentForUser 0),
    .onStub (.agentForUser 0), .authenticate 0 .timedOut, .onStub (.enter 1),
    .onStub (.hasAgentForUser 1), .onStub (.agentForUser 1), .onDaemon 7 (.restart onBus),
    .onStub (.unregisterAgentForUser ⟨1000⟩), .authenticate 1 .replied]

/-- The second call is granted, as the user granted the first one after it had timed out. -/
theorem answered_run_retried : ∃ s,
    Transition.run (step cameras)
      (start (fun _ => onBus) fun _ => Sqlite.Store.empty Sqlite.Engine.stable) retried = some s ∧
    s.stub.calls 1 = .finished (.ok .granted) ∧
    Vouched cameras (fun _ => onBus) (fun _ => Sqlite.Store.empty Sqlite.Engine.stable) retried 1
      .granted := by
  obtain ⟨s, hrun, hcall⟩ : ∃ s, Transition.run (step cameras)
      (start (fun _ => onBus) fun _ => Sqlite.Store.empty Sqlite.Engine.stable) retried = some s ∧
      s.stub.calls 1 = .finished (.ok .granted) := ⟨_, rfl, rfl⟩
  have hproper : Transition.Meets (step cameras) (Proper cameras)
      (start (fun _ => onBus) fun _ => Sqlite.Store.empty Sqlite.Engine.stable) retried := by
    refine ⟨trivial, fun _ _ => ⟨trivial, fun _ _ => ⟨trivial, fun _ _ => ⟨trivial, fun _ _ =>
      ⟨?_, fun _ _ => ⟨trivial, fun _ _ => ⟨trivial, fun _ _ => ⟨trivial, fun _ _ =>
        ⟨trivial, fun _ _ => ⟨trivial, fun _ _ => ⟨?_, fun _ _ => trivial⟩⟩⟩⟩⟩⟩⟩⟩⟩⟩⟩
    · exact ⟨by decide, by decide⟩
    · exact ⟨by decide, by decide⟩
  refine ⟨s, hrun, hcall, ?_⟩
  rcases answered_run (fun _ => ⟨⟨rfl, rfl⟩, rfl, rfl⟩) hproper hrun
    (unlisted_of_take (by decide)) hcall with ⟨hdenied, -⟩ | hvouched
  · cases hdenied
  · exact hvouched

end TrustStore.Daemon.MultiUser
