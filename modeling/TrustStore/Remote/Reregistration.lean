import TrustStore.Dbus.AgentRegistry

/-!
# Stubs that go and come back

Models `remote::dbus::Agent::Skeleton`, `src/core/trust/remote/dbus.cpp:47–75`, for any number of
daemons, with a stub that loses its registry whenever its process goes. A daemon registers itself
once, and again whenever its watcher says that the name of the service was taken. A watcher signals
what happens after it was made, and nobody hears a signal before the slot is connected. The name is
taken before the handlers of the registry are installed, `src/core/trust/daemon.cpp:382–401`, and a
call that comes in between fails.
-/

namespace TrustStore.Remote.Dbus.Reregistration

open TrustStore.Base
open TrustStore.Dbus.AgentRegistry (LockingAgentRegistry AgentStub Call countingObjectPathGenerator)

/-- Names for daemons, each of them launched once. -/
abbrev DaemonId := Nat

/-- What there is of the stub on the bus. -/
inductive Presence where
  /-- nobody has the name of the service -/
  | absent
  /-- a process has the name, and its registry does not handle calls yet -/
  | named
  | serving
  deriving DecidableEq, Repr

/-- How far a daemon has come. -/
inductive Stage where
  | idle
  /-- its watcher was made -/
  | watching
  /-- its constructor has made the first call -/
  | announced
  /-- the slot is connected -/
  | connected
  | gone
  deriving DecidableEq, Repr

/-- There is a watcher for the name of the service. -/
def Stage.watches : Stage → Bool
  | idle | gone => false
  | watching | announced | connected => true

/-- The daemon has made its first call and is still there. -/
def Stage.running : Stage → Bool
  | idle | watching | gone => false
  | announced | connected => true

/-- The daemons of a service: their users, and the names of their connections. -/
structure Service where
  uid : DaemonId → Uid
  sender : DaemonId → String

/-- The stub, the daemons, and what is under way between them: calls that wait to be handled, and
signals that the name of the service was taken. -/
structure State where
  presence : Presence
  agentRegistry : LockingAgentRegistry AgentStub
  stage : DaemonId → Stage
  /-- the counter of the generator for object paths -/
  counter : DaemonId → Nat
  requests : DaemonId → List Call
  signals : DaemonId → Nat

/-- Nobody is there. -/
def start : State where
  presence := .absent
  agentRegistry _ := none
  stage _ := .idle
  counter _ := 0
  requests _ := []
  signals _ := 0

/-- One step of the stub, of a daemon or of the bus. -/
inductive Label where
  | takeName
  | installHandlers
  | vanish
  | makeServiceWatcher (daemon : DaemonId)
  | construct (daemon : DaemonId)
  | connect (daemon : DaemonId)
  | exit (daemon : DaemonId)
  | serviceRegistered (daemon : DaemonId)
  | registerAgentForUser (daemon : DaemonId) (sent : Bool)
  deriving DecidableEq, Repr

/-- A daemon goes on. -/
def State.goOn (s : State) (d : DaemonId) (stage : Stage) : State :=
  { s with stage := Function.update s.stage d stage }

variable (service : Service)

/-- The call that announces an object of a daemon;
`src/core/trust/dbus/agent_registry.h:203–217`. -/
def Service.registration (d : DaemonId) (counter : Nat) : Call where
  stub := d
  sender := service.sender d
  method := .registerAgentForUserAsync (countingObjectPathGenerator counter)
  uid := service.uid d

/-- A daemon makes a new object for its agent and announces it;
`src/core/trust/dbus/agent_registry.h:184–218`. -/
def State.registerAgentForUserAsync (s : State) (d : DaemonId) : State :=
  { s with
    counter := Function.update s.counter d (s.counter d + 1)
    requests := Function.update s.requests d
      (s.requests d ++ [service.registration d (s.counter d)]) }

/-- One step; `src/core/trust/remote/dbus.cpp:47–75`. -/
def step (s : State) : Label → Option State
  | .takeName =>
    match s.presence with
    | .absent => some
        { s with
          presence := .named
          signals := fun d => if (s.stage d).watches then s.signals d + 1 else s.signals d }
    | _ => none
  | .installHandlers =>
    match s.presence with
    | .named => some { s with presence := .serving }
    | _ => none
  | .vanish =>
    match s.presence with
    | .absent => none
    | _ => some { s with presence := .absent, agentRegistry := fun _ => none }
  | .makeServiceWatcher d =>
    match s.stage d with
    | .idle => some (s.goOn d .watching)
    | _ => none
  | .construct d =>
    match s.stage d with
    | .watching => some ((s.registerAgentForUserAsync service d).goOn d .announced)
    | _ => none
  | .connect d =>
    match s.stage d with
    | .announced => some (s.goOn d .connected)
    | _ => none
  | .exit d =>
    match s.stage d with
    | .idle | .gone => none
    | _ => some { s.goOn d .gone with signals := Function.update s.signals d 0 }
  | .serviceRegistered d =>
    match s.signals d with
    | 0 => none
    | n + 1 =>
      let s := { s with signals := Function.update s.signals d n }
      some (if s.stage d = .connected then s.registerAgentForUserAsync service d else s)
  | .registerAgentForUser d sent =>
    match s.requests d with
    | [] => none
    | call :: rest => some
        { s with
          requests := Function.update s.requests d rest
          agentRegistry :=
            match s.presence with
            | .serving => Dbus.AgentRegistry.Skeleton.handle s.agentRegistry call sent
            | _ => s.agentRegistry }

/-- No signal comes before the slot for it is connected, no call before the handlers are installed,
and replies are sent. -/
def Orderly (s : State) : Label → Prop
  | .serviceRegistered d => s.stage d = .connected
  | .registerAgentForUser _ sent => s.presence ≠ .named ∧ sent = true
  | _ => True

instance (s : State) (label : Label) : Decidable (Orderly s label) := by
  cases label <;> unfold Orderly <;> infer_instance

/-- Nothing is under way from or to a daemon. -/
def State.Quiet (s : State) (d : DaemonId) : Prop := s.requests d = [] ∧ s.signals d = 0

/-- The registry names, for the user of a daemon, the object of a daemon of this user that the last
of its calls that were handled has announced. -/
def Registered (s : State) (d : DaemonId) : Prop :=
  ∃ other counter, service.uid other = service.uid d ∧
    s.agentRegistry (service.uid d) =
      some ⟨service.sender other, countingObjectPathGenerator counter⟩ ∧
    counter + 1 + (s.requests other).length = s.counter other

variable {service : Service} {s t : State} {label : Label}

/-! ### One step -/

/-- The registry after the call of a daemon has come. -/
def State.handled (s : State) (call : Call) (sent : Bool) : LockingAgentRegistry AgentStub :=
  match s.presence with
  | .serving => Dbus.AgentRegistry.Skeleton.handle s.agentRegistry call sent
  | _ => s.agentRegistry

private theorem handled_serving {call : Call} {sent : Bool} (h : s.presence = .serving) :
    s.handled call sent = Dbus.AgentRegistry.Skeleton.handle s.agentRegistry call sent := by
  rw [State.handled, h]

private theorem handled_other {call : Call} {sent : Bool} (h : s.presence ≠ .serving) :
    s.handled call sent = s.agentRegistry := by
  rw [State.handled]
  split
  next hserving => exact absurd hserving h
  next => rfl

/-- The cases of a step. -/
inductive Steps (service : Service) (s : State) : Label → State → Prop
  | takeName (hpresence : s.presence = .absent) : Steps service s .takeName
      { s with
        presence := .named
        signals := fun d => if (s.stage d).watches then s.signals d + 1 else s.signals d }
  | installHandlers (hpresence : s.presence = .named) :
      Steps service s .installHandlers { s with presence := .serving }
  | vanish : Steps service s .vanish
      { s with presence := .absent, agentRegistry := fun _ => none }
  | makeServiceWatcher {d} (hstage : s.stage d = .idle) :
      Steps service s (.makeServiceWatcher d) (s.goOn d .watching)
  | construct {d} (hstage : s.stage d = .watching) : Steps service s (.construct d)
      ((s.registerAgentForUserAsync service d).goOn d .announced)
  | connect {d} (hstage : s.stage d = .announced) :
      Steps service s (.connect d) (s.goOn d .connected)
  | exit {d} : Steps service s (.exit d)
      { s.goOn d .gone with signals := Function.update s.signals d 0 }
  | heard {d n} (hsignals : s.signals d = n + 1) (hstage : s.stage d = .connected) :
      Steps service s (.serviceRegistered d)
        ({ s with signals := Function.update s.signals d n }.registerAgentForUserAsync service d)
  | unheard {d n} (hsignals : s.signals d = n + 1) (hstage : s.stage d ≠ .connected) :
      Steps service s (.serviceRegistered d)
        { s with signals := Function.update s.signals d n }
  | registerAgentForUser {d sent call rest} (hrequests : s.requests d = call :: rest) :
      Steps service s (.registerAgentForUser d sent)
        { s with
          requests := Function.update s.requests d rest
          agentRegistry := s.handled call sent }

/-- Every step is one of the cases. -/
theorem steps_of_step (h : step service s label = some t) : Steps service s label t := by
  cases label with
  | takeName | installHandlers =>
    simp only [step] at h
    split at h
    next hpresence =>
      cases h
      constructor
      exact hpresence
    next => cases h
  | vanish =>
    simp only [step] at h
    split at h
    next => cases h
    next =>
      cases h
      exact .vanish
  | makeServiceWatcher d | construct d | connect d =>
    simp only [step] at h
    split at h
    next hstage =>
      cases h
      constructor
      exact hstage
    next => cases h
  | exit d =>
    simp only [step] at h
    split at h
    next => cases h
    next => cases h
    next =>
      cases h
      exact .exit
  | serviceRegistered d =>
    simp only [step] at h
    split at h
    next => cases h
    next n hsignals =>
      cases h
      split
      next hstage => exact .heard hsignals hstage
      next hstage => exact .unheard hsignals hstage
  | registerAgentForUser d sent =>
    simp only [step] at h
    split at h
    next => cases h
    next call rest hrequests =>
      cases h
      exact .registerAgentForUser hrequests

/-! ### Calls are handled in order -/

variable {d : DaemonId}

/-- The calls that wait are those with the numbers from the first to the second. -/
def Consecutive (service : Service) (d : DaemonId) : Nat → List Call → Nat → Prop
  | first, [], last => first = last
  | first, call :: rest, last =>
    call = service.registration d first ∧ Consecutive service d (first + 1) rest last

private theorem Consecutive.length {first last : Nat} {calls : List Call}
    (h : Consecutive service d first calls last) : first + calls.length = last := by
  induction calls generalizing first with
  | nil => exact h
  | cons call calls ih =>
    have hlength := ih h.2
    rw [List.length_cons]
    omega

private theorem Consecutive.concat {first last : Nat} {calls : List Call}
    (h : Consecutive service d first calls last) :
    Consecutive service d first (calls ++ [service.registration d last]) (last + 1) := by
  induction calls generalizing first with
  | nil =>
    cases h
    exact ⟨rfl, rfl⟩
  | cons call calls ih => exact ⟨h.1, ih h.2⟩

/-- What holds throughout a run. The calls of a daemon wait in the order of their objects, a stub
that does not handle calls has nothing in its registry, and what it has is the object of the last
call of its daemon that was handled. -/
structure InOrder (service : Service) (s : State) : Prop where
  requests : ∀ d, ∃ first, Consecutive service d first (s.requests d) (s.counter d)
  nobody : s.presence ≠ .serving → ∀ uid, s.agentRegistry uid = none
  named : ∀ uid agent, s.agentRegistry uid = some agent → ∃ d counter, service.uid d = uid ∧
    agent = ⟨service.sender d, countingObjectPathGenerator counter⟩ ∧
      counter + 1 + (s.requests d).length = s.counter d

private theorem inOrder_start : InOrder service start where
  requests _ := ⟨0, rfl⟩
  nobody _ _ := rfl
  named _ _ := nofun

/-- Steps that leave the calls, the registry and the presence alone. -/
private theorem InOrder.frame (h : InOrder service s) (hrequests : t.requests = s.requests)
    (hcounter : t.counter = s.counter) (hregistry : t.agentRegistry = s.agentRegistry)
    (hpresence : t.presence ≠ .serving → s.presence ≠ .serving) : InOrder service t where
  requests d := by
    rw [hrequests, hcounter]
    exact h.requests d
  nobody hserving := by
    rw [hregistry]
    exact h.nobody (hpresence hserving)
  named := by
    rw [hrequests, hcounter, hregistry]
    exact h.named

private theorem InOrder.registerAgentForUserAsync (h : InOrder service s) (d : DaemonId) :
    InOrder service (s.registerAgentForUserAsync service d) where
  requests other := by
    by_cases hother : other = d
    · subst hother
      obtain ⟨first, hfirst⟩ := h.requests other
      refine ⟨first, ?_⟩
      simp only [State.registerAgentForUserAsync, Function.update_self]
      exact hfirst.concat
    · simp only [State.registerAgentForUserAsync, Function.update_of_ne hother]
      exact h.requests other
  nobody := h.nobody
  named uid agent hagent := by
    obtain ⟨other, counter, huid, hnames, hcounter⟩ := h.named uid agent hagent
    refine ⟨other, counter, huid, hnames, ?_⟩
    by_cases hother : other = d
    · subst hother
      simp only [State.registerAgentForUserAsync, Function.update_self, List.length_append,
        List.length_singleton]
      rw [← Nat.add_assoc, hcounter]
    · simp only [State.registerAgentForUserAsync, Function.update_of_ne hother]
      exact hcounter

/-- What the handler makes of a registration. -/
theorem handle_registration {registry : LockingAgentRegistry AgentStub} {counter : Nat}
    {sent : Bool} :
    Dbus.AgentRegistry.Skeleton.handle registry (service.registration d counter) sent =
      Function.update registry (service.uid d)
        (if sent then some ⟨service.sender d, countingObjectPathGenerator counter⟩ else none) := by
  cases sent with
  | true => rfl
  | false => exact Function.update_idem _ _ _

/-- The oldest call of a daemon is handled. -/
private theorem InOrder.handled (h : InOrder service s) {call : Call} {rest : List Call}
    (hrequests : s.requests d = call :: rest) (sent : Bool) : InOrder service
      { s with
        requests := Function.update s.requests d rest
        agentRegistry := s.handled call sent } := by
  obtain ⟨first, hfirst⟩ := h.requests d
  rw [hrequests] at hfirst
  obtain ⟨rfl, hrest⟩ := hfirst
  refine ⟨fun other => ?_, fun hserving uid => ?_, fun uid agent hagent => ?_⟩
  · by_cases hother : other = d
    · subst hother
      refine ⟨first + 1, ?_⟩
      simp only [Function.update_self]
      exact hrest
    · simp only [Function.update_of_ne hother]
      exact h.requests other
  · have hother : s.presence ≠ .serving := hserving
    simp only [handled_other hother]
    exact h.nobody hother uid
  · by_cases hpresence : s.presence = .serving
    · simp only [handled_serving hpresence, handle_registration] at hagent
      by_cases huid : uid = service.uid d
      · subst huid
        rw [Function.update_self] at hagent
        refine ⟨d, first, rfl, ?_, ?_⟩
        · cases sent with
          | true => exact (Option.some.inj hagent).symm
          | false => cases hagent
        · simp only [Function.update_self]
          exact hrest.length
      · rw [Function.update_of_ne huid] at hagent
        obtain ⟨other, counter, hother, hnames, hcounter⟩ := h.named uid agent hagent
        have hne : other ≠ d := by
          rintro rfl
          exact huid hother.symm
        refine ⟨other, counter, hother, hnames, ?_⟩
        simp only [Function.update_of_ne hne]
        exact hcounter
    · simp only [handled_other hpresence, h.nobody hpresence uid] at hagent
      cases hagent

private theorem InOrder.step (h : InOrder service s) (hstep : Steps service s label t) :
    InOrder service t := by
  cases hstep with
  | takeName hpresence =>
    exact h.frame rfl rfl rfl fun _ hserving => by cases hpresence.symm.trans hserving
  | installHandlers hpresence =>
    exact ⟨h.requests, fun hserving => absurd rfl hserving, h.named⟩
  | vanish => exact ⟨h.requests, fun _ _ => rfl, fun _ _ => nofun⟩
  | makeServiceWatcher | connect | exit | unheard => exact h.frame rfl rfl rfl id
  | construct => exact (h.registerAgentForUserAsync _).frame rfl rfl rfl id
  | @heard d n =>
    have hheard : InOrder service { s with signals := Function.update s.signals d n } :=
      h.frame rfl rfl rfl id
    exact hheard.registerAgentForUserAsync d
  | registerAgentForUser hrequests => exact h.handled hrequests _

/-! ### Registrations come back -/

/-- While the name is taken, every daemon that runs is registered, or something is under way that
registers it. -/
def Heals (service : Service) (s : State) : Prop :=
  s.presence ≠ .absent → ∀ d, (s.stage d).running → s.requests d ≠ [] ∨ s.signals d ≠ 0 ∨
    s.presence = .serving ∧ s.agentRegistry (service.uid d) ≠ none

private theorem watches_of_running {stage : Stage} (h : stage.running) : stage.watches := by
  cases stage with
  | idle | watching | gone => cases h
  | announced | connected => rfl

/-- Whatever went on before, the name being taken reaches every daemon that runs. -/
private theorem heals_takeName (hstep : Steps service s .takeName t) : Heals service t := by
  cases hstep with
  | takeName =>
    intro _ d hrunning
    refine .inr (.inl ?_)
    simp only [watches_of_running hrunning, if_true]
    exact Nat.succ_ne_zero _

/-- A daemon that takes a step with something under way afterwards. -/
private theorem Heals.update (h : Heals service s) (d : DaemonId)
    (hpresence : t.presence = s.presence) (hregistry : t.agentRegistry = s.agentRegistry)
    (hstage : ∀ other, other ≠ d → t.stage other = s.stage other)
    (hrequests : ∀ other, other ≠ d → t.requests other = s.requests other)
    (hsignals : ∀ other, other ≠ d → t.signals other = s.signals other)
    (hd : (t.stage d).running → t.presence ≠ .absent → t.requests d ≠ [] ∨ t.signals d ≠ 0 ∨
      t.presence = .serving ∧ t.agentRegistry (service.uid d) ≠ none) : Heals service t := by
  intro hthere other hrunning
  by_cases hother : other = d
  · subst hother
    exact hd hrunning hthere
  · rw [hstage other hother] at hrunning
    rw [hrequests other hother, hsignals other hother, hregistry, hpresence]
    exact h (hpresence ▸ hthere) other hrunning

private theorem Heals.step (h : Heals service s) (hinOrder : InOrder service s)
    (horderly : Orderly s label) (hstep : Steps service s label t) : Heals service t := by
  cases hstep with
  | takeName hpresence => exact heals_takeName (.takeName hpresence)
  | installHandlers hpresence =>
    intro _ d hrunning
    have hnamed : s.presence ≠ .absent := by
      rw [hpresence]
      exact nofun
    rcases h hnamed d hrunning with hrequests | hsignals | ⟨hserving, -⟩
    · exact .inl hrequests
    · exact .inr (.inl hsignals)
    · cases hpresence.symm.trans hserving
  | vanish => exact fun hthere => absurd rfl hthere
  | @makeServiceWatcher d | @exit d =>
    refine h.update d rfl rfl (fun other hother => Function.update_of_ne hother ..)
      (fun _ _ => rfl) (fun other hother => ?_) fun hrunning => ?_
    · first | rfl | exact Function.update_of_ne hother ..
    · simp only [State.goOn, Function.update_self] at hrunning
      cases hrunning
  | @construct d =>
    refine h.update d rfl rfl (fun other hother => Function.update_of_ne hother ..)
      (fun other hother => Function.update_of_ne hother ..) (fun _ _ => rfl) fun _ _ => ?_
    left
    simp [State.registerAgentForUserAsync, State.goOn]
  | @connect d hstage =>
    refine h.update d rfl rfl (fun other hother => Function.update_of_ne hother ..)
      (fun _ _ => rfl) (fun _ _ => rfl) fun _ hthere => ?_
    refine h hthere d ?_
    rw [hstage]
    rfl
  | @heard d =>
    refine h.update d rfl rfl (fun _ _ => rfl)
      (fun other hother => Function.update_of_ne hother ..)
      (fun other hother => Function.update_of_ne hother ..) fun _ _ => ?_
    left
    simp [State.registerAgentForUserAsync]
  | unheard hsignals hstage => exact absurd horderly hstage
  | @registerAgentForUser d sent call rest hrequests =>
    obtain ⟨hnamed, rfl⟩ := horderly
    obtain ⟨first, hfirst⟩ := hinOrder.requests d
    rw [hrequests] at hfirst
    obtain ⟨rfl, -⟩ := hfirst
    intro hthere other hrunning
    have hserving : s.presence = .serving := by
      cases hpresence : s.presence with
      | absent => exact absurd hpresence hthere
      | named => exact absurd hpresence hnamed
      | serving => rfl
    simp only [handled_serving hserving, handle_registration, if_true]
    by_cases huid : service.uid other = service.uid d
    · refine .inr (.inr ⟨hserving, ?_⟩)
      rw [huid, Function.update_self]
      exact nofun
    · have hother : other ≠ d := by
        rintro rfl
        exact huid rfl
      rw [Function.update_of_ne huid, Function.update_of_ne hother]
      exact h hthere other hrunning

/-! ### Whole runs -/

/-- What holds once the stub has taken its name, through all steps that are orderly. -/
private theorem heals_run {before after : List Label}
    (hrun : Transition.run (step service) start (before ++ .takeName :: after) = some s)
    (horderly : ∀ r, Transition.run (step service) start (before ++ [.takeName]) = some r →
      Transition.Meets (step service) Orderly r after) :
    InOrder service s ∧ Heals service s := by
  rw [List.append_cons] at hrun
  obtain ⟨r, hbefore, hafter⟩ := Transition.run_append_some.mp hrun
  have hinOrder : InOrder service r :=
    Transition.invariant_run (fun _ _ _ h _ hstep => h.step (steps_of_step hstep)) inOrder_start
      (Transition.meets_true _ _) hbefore
  obtain ⟨q, -, htaken⟩ := Transition.run_append_some.mp hbefore
  obtain ⟨r', htake, hr⟩ := Transition.run_cons_some.mp htaken
  cases hr
  have hstep : ∀ s label t, InOrder service s ∧ Heals service s → Orderly s label →
      step service s label = some t → InOrder service t ∧ Heals service t :=
    fun s label t h horderly hstep =>
      ⟨h.1.step (steps_of_step hstep), h.2.step h.1 horderly (steps_of_step hstep)⟩
  exact Transition.invariant_run hstep ⟨hinOrder, heals_takeName (steps_of_step htake)⟩
    (horderly r hbefore) hafter

private theorem Heals.registered (h : Heals service s) (hinOrder : InOrder service s)
    (hserving : s.presence = .serving) (hrunning : (s.stage d).running) (hquiet : s.Quiet d) :
    Registered service s d := by
  have hthere : s.presence ≠ .absent := by
    rw [hserving]
    exact nofun
  rcases h hthere d hrunning with hrequests | hsignals | ⟨-, hregistry⟩
  · exact absurd hquiet.1 hrequests
  · exact absurd hquiet.2 hsignals
  · obtain ⟨agent, hagent⟩ := Option.ne_none_iff_exists'.mp hregistry
    obtain ⟨other, counter, huid, rfl, hcounter⟩ := hinOrder.named _ _ hagent
    exact ⟨other, counter, huid, hagent, hcounter⟩

/-- Whatever went on before: once the stub has taken its name, and as long as the steps from then on
are orderly, the user of every daemon that runs has an agent in the registry as soon as nothing is
under way from or to that daemon, through any number of times that the stub goes and comes back.
The agent is the object that a daemon of this user has announced last, of those that were
handled. -/
theorem reregistered_run {before after : List Label}
    (hrun : Transition.run (step service) start (before ++ .takeName :: after) = some s)
    (horderly : ∀ r, Transition.run (step service) start (before ++ [.takeName]) = some r →
      Transition.Meets (step service) Orderly r after)
    (hserving : s.presence = .serving) (hrunning : (s.stage d).running) (hquiet : s.Quiet d) :
    Registered service s d :=
  have hs := heals_run hrun horderly
  hs.2.registered hs.1 hserving hrunning hquiet

/-- The daemons of two users. -/
def twoUsers : Service where
  uid d := ⟨.ofNat (1000 + d)⟩
  sender d := ":1." ++ toString d

/-- The stub is there before a daemon, goes, and comes back. -/
def restarted : List Label :=
  [.takeName, .installHandlers, .makeServiceWatcher 1, .construct 1, .connect 1,
    .registerAgentForUser 1 true, .vanish]

/-- The daemon hears of it. -/
def reheard : List Label := [.installHandlers, .serviceRegistered 1, .registerAgentForUser 1 true]

/-- And registers another object. -/
theorem reregistered_run_restarted : ∃ s,
    Transition.run (step twoUsers) start (restarted ++ .takeName :: reheard) = some s ∧
      Registered twoUsers s 1 := by
  have hrun : Transition.run (step twoUsers) start (restarted ++ .takeName :: reheard) =
    some _ := rfl
  refine ⟨_, hrun, reregistered_run hrun ?_ rfl rfl ⟨rfl, rfl⟩⟩
  intro r hr
  cases hr
  exact .cons trivial rfl (.cons rfl rfl (.cons ⟨nofun, rfl⟩ rfl trivial))

/-- A call that comes before the handlers are installed leaves a user without an agent. -/
example : (Transition.run (step twoUsers) start
    [.makeServiceWatcher 1, .construct 1, .connect 1, .registerAgentForUser 1 true, .takeName,
      .serviceRegistered 1, .registerAgentForUser 1 true, .installHandlers]).map
        (fun s => (s.agentRegistry ⟨1001⟩, s.requests 1, s.signals 1)) = some (none, [], 0) := rfl

/-! ### Deliveries -/

/-- The daemon that a delivery is from or to. -/
def Label.delivers : Label → Option DaemonId
  | .serviceRegistered d | .registerAgentForUser d _ => some d
  | _ => none

/-- The steps that deliver what is under way from or to a daemon. -/
def deliveries (d : DaemonId) (ls : List Label) : Nat :=
  ls.countP fun label => label.delivers = some d

/-- What deliveries take away. -/
private structure Delivering (s : State) (d : DaemonId) (ls : List Label) (t : State) : Prop where
  serving : t.presence = .serving
  connected : t.stage d = .connected
  remaining : deliveries d ls + (2 * t.signals d + (t.requests d).length) =
    2 * s.signals d + (s.requests d).length

private theorem deliveries_concat_self {ls : List Label} (h : label.delivers = some d) :
    deliveries d (ls ++ [label]) = deliveries d ls + 1 := by
  simp [deliveries, List.countP_append, h]

private theorem deliveries_concat_other {ls : List Label} (h : label.delivers ≠ some d) :
    deliveries d (ls ++ [label]) = deliveries d ls := by
  simp [deliveries, List.countP_append, h]

private theorem delivering_step {ls : List Label} {u : State} (h : Delivering s d ls t)
    (horderly : Orderly t label) (hdelivers : label.delivers.isSome)
    (hstep : Steps service t label u) : Delivering s d (ls ++ [label]) u := by
  obtain ⟨hserving, hconnected, hremaining⟩ := h
  cases hstep with
  | takeName | installHandlers | vanish | makeServiceWatcher | construct | connect | exit =>
    cases hdelivers
  | @heard other n hsignals =>
    refine ⟨hserving, hconnected, ?_⟩
    rw [← hremaining]
    by_cases hother : d = other
    · subst hother
      rw [deliveries_concat_self rfl]
      simp only [State.registerAgentForUserAsync, Function.update_self, List.length_append,
        List.length_singleton, hsignals]
      omega
    · have hne : (Label.serviceRegistered other).delivers ≠ some d :=
        fun h => hother (Option.some.inj h).symm
      rw [deliveries_concat_other hne]
      simp only [State.registerAgentForUserAsync, Function.update_of_ne hother]
  | unheard hsignals hstage => exact absurd horderly hstage
  | @registerAgentForUser other sent call rest hrequests =>
    refine ⟨hserving, hconnected, ?_⟩
    rw [← hremaining]
    by_cases hother : d = other
    · subst hother
      rw [deliveries_concat_self rfl]
      simp only [Function.update_self, hrequests, List.length_cons]
      omega
    · have hne : (Label.registerAgentForUser other sent).delivers ≠ some d :=
        fun h => hother (Option.some.inj h).symm
      rw [deliveries_concat_other hne]
      simp only [Function.update_of_ne hother]

/-- Whatever went on before: once the stub has taken its name and handles calls, in any order in
which what is under way is delivered, two deliveries for each signal and one for each call of a
daemon are all that there can be for it, and after these its user is registered. -/
theorem reregisters_run {before after ls : List Label}
    (hafter : Transition.run (step service) start (before ++ .takeName :: after) = some s)
    (horderly : ∀ r, Transition.run (step service) start (before ++ [.takeName]) = some r →
      Transition.Meets (step service) Orderly r (after ++ ls))
    (hserving : s.presence = .serving) (hconnected : s.stage d = .connected)
    (hdelivers : ∀ label ∈ ls, label.delivers.isSome)
    (hrun : Transition.run (step service) s ls = some t) :
    deliveries d ls ≤ 2 * s.signals d + (s.requests d).length ∧
      (deliveries d ls = 2 * s.signals d + (s.requests d).length → Registered service t d) := by
  have hmeets : Transition.Meets (step service)
      (fun t label => Orderly t label ∧ label.delivers.isSome) s ls := by
    have hafter' := hafter
    rw [List.append_cons] at hafter'
    obtain ⟨r, hbefore, hr⟩ := Transition.run_append_some.mp hafter'
    exact ((horderly r hbefore).right hr).and
      (Transition.meets_of_forall fun label hlabel _ => hdelivers label hlabel)
  have hdelivering : Delivering s d ls t :=
    Transition.invariant_run_history
      (fun ls t label u h hC hstep => delivering_step h hC.1 hC.2 (steps_of_step hstep))
      ⟨hserving, hconnected, Nat.zero_add _⟩ hmeets hrun
  have hall : Transition.run (step service) start (before ++ .takeName :: (after ++ ls)) =
      some t := by
    rw [← List.cons_append, ← List.append_assoc]
    exact Transition.run_append_some.mpr ⟨s, hafter, hrun⟩
  obtain ⟨hinOrder, hheals⟩ := heals_run hall horderly
  have hremaining := hdelivering.remaining
  refine ⟨by omega, fun hdelivered => ?_⟩
  have hquiet : t.Quiet d := by
    refine ⟨List.eq_nil_of_length_eq_zero ?_, ?_⟩ <;> omega
  refine hheals.registered hinOrder hdelivering.serving ?_ hquiet
  rw [hdelivering.connected]
  rfl

/-- The daemons of two users, one of them not connected yet when the stub comes. -/
def twoLaunched : List Label :=
  [.makeServiceWatcher 1, .construct 1, .connect 1, .makeServiceWatcher 2, .construct 2]

/-- All that is under way for one of them, and something for the other. -/
def delivered : List Label :=
  [.registerAgentForUser 2 true, .serviceRegistered 1, .registerAgentForUser 1 true,
    .registerAgentForUser 1 true]

/-- The one is registered while the other has a signal to come. -/
theorem reregisters_run_twoUsers : ∃ s t,
    Transition.run (step twoUsers) start (twoLaunched ++ .takeName :: [.installHandlers]) =
      some s ∧
      Transition.run (step twoUsers) s delivered = some t ∧ t.signals 2 = 1 ∧
      Registered twoUsers t 1 := by
  have hafter : Transition.run (step twoUsers) start
      (twoLaunched ++ .takeName :: [.installHandlers]) = some _ := rfl
  have hall : Transition.run (step twoUsers) start
      ((twoLaunched ++ .takeName :: [.installHandlers]) ++ delivered) = some _ := rfl
  obtain ⟨s, hs, hrun⟩ := Transition.run_append_some.mp hall
  cases hafter.symm.trans hs
  refine ⟨_, _, hafter, hrun, rfl, ?_⟩
  have horderly : ∀ r, Transition.run (step twoUsers) start (twoLaunched ++ [.takeName]) = some r →
      Transition.Meets (step twoUsers) Orderly r ([.installHandlers] ++ delivered) := by
    intro r hr
    cases hr
    exact .cons trivial rfl (.cons ⟨nofun, rfl⟩ rfl (.cons rfl rfl (.cons ⟨nofun, rfl⟩ rfl
      (.cons ⟨nofun, rfl⟩ rfl trivial))))
  exact (reregisters_run hafter horderly rfl rfl (by decide) hrun).2 rfl

end TrustStore.Remote.Dbus.Reregistration
