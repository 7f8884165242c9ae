import TrustStore.Agents.Helper
import TrustStore.Base.Transition

/-!
# Prompting through Mir

Models `mir::Agent::authenticate_request_with_parameters`, `src/core/trust/mir/agent.cpp`, as
a machine that takes one call of the function at a time. The labels carry what Mir, the
resolvers, the helper and the operating system return or throw. Between any two calls the
prompt provider may come to its end, and Mir may report a change of a prompt session.
-/

namespace TrustStore.Mir

open TrustStore.Base

/-- `mir::AppInfo`; `src/core/trust/mir/agent.h:43–48`. -/
structure AppInfo where
  icon : String
  name : String
  id : String
  deriving DecidableEq, Repr

/-- `PromptProviderHelper::InvocationArguments`; `src/core/trust/mir/agent.h:128–137`. -/
structure InvocationArguments where
  fd : Int32
  appInfo : AppInfo
  description : String
  deriving DecidableEq, Repr

/-- `MirPromptSessionState` of the Mir client library. -/
inductive PromptSessionState where
  | stopped
  | started
  | suspended
  deriving DecidableEq, Repr

/-- The process of the prompt provider. -/
inductive Provider where
  | notStarted
  | running
  | suspended
  | exited (status : UInt8)
  | signaled
  deriving DecidableEq, Repr

/-- A process that is over stays as it is. -/
def Provider.Over : Provider → Prop
  | exited _ | signaled => True
  | notStarted | running | suspended => False

instance : DecidablePred Provider.Over := fun provider => by
  cases provider <;> unfold Provider.Over <;> infer_instance

/-- `SIGKILL` ends a live process. -/
def Provider.kill : Provider → Provider
  | running | suspended => signaled
  | provider => provider

/-- What waiting for the process reports, if it does not block. -/
def Provider.report : Provider → Option WaitResult
  | exited status => some (.exited status)
  | signaled => some .signaled
  | suspended => some .stopped
  | notStarted | running => none

/-- The process named by `OnTrustSessionStateChangedCallbackContext`;
`src/core/trust/mir/agent.h:187–191`. -/
inductive ChildProcess where
  | invalid
  | provider
  deriving DecidableEq, Repr

/-- The next call that the function makes; `src/core/trust/mir/agent.cpp:229–317`. -/
inductive Location where
  /-- `create_prompt_session_sync` -/
  | creating (pid : Pid)
  /-- `prompt_session->error_message()` -/
  | inspecting (pid : Pid)
  /-- `parent_pid_resolver` -/
  | resolvingParent (pid : Pid)
  /-- `mir_prompt_session_new_fds_for_prompt_providers_sync` -/
  | acquiring
  /-- `::fcntl(fd, F_SETFD, 0)` -/
  | clearing (fd : Int32)
  /-- `app_info_resolver->resolve` -/
  | resolving
  /-- `exec_prompt_provider_with_arguments` -/
  | executing (args : InvocationArguments)
  /-- the assignment to `cb_context.prompt_provider_process` -/
  | storing
  /-- `wait_for` -/
  | waiting
  /-- `config.translator` -/
  | translating (result : WaitResult)
  | finished (result : Except Exception Answer)

/-- The state of a call. `error` is the error message of the newest of the `sessions` created;
`stopped` and `exitedInSession` note whether that session was stopped, and whether the
provider exited by itself before it was. The lists record what the call did. -/
structure State where
  location : Location
  sessions : Nat
  error : String
  promptProviderProcess : ChildProcess
  scopeFd : Int32
  provider : Provider
  stopped : Bool
  exitedInSession : Bool
  tried : List Pid
  opened : List Int32
  closed : List Int32
  resolved : List String
  executed : List InvocationArguments

/-- What may happen next: the call that the function is at returns or throws, or something
changes outside of it. -/
inductive Label where
  | createPromptSessionSync (outcome : Except Exception String)
  | errorMessage
  | parentPidResolver (outcome : Except Exception Pid)
  | newFd (fd : Int32)
  | fcntl (errno : Option Int)
  | resolve (outcome : Except Exception AppInfo)
  | execPromptProvider (outcome : Except Exception PUnit)
  | store
  | waitFor
  | waitFails (e : Exception)
  | translate
  | providerExits (status : UInt8)
  | providerSignaled
  | providerSuspended
  | providerContinued
  | sessionChanged (session : Nat) (state : PromptSessionState)

/-- The error message of a session whose application Mir does not know;
`src/core/trust/mir/agent.cpp:280–281`. -/
def errorNoSession : String :=
  "Error processing request: Could not identify application session\n"

/-- The function is called; `src/core/trust/mir/agent.cpp:229–266`. -/
def start (parameters : RequestParameters) : State where
  location := .creating parameters.application.pid
  sessions := 0
  error := ""
  promptProviderProcess := .invalid
  scopeFd := -1
  provider := .notStarted
  stopped := false
  exitedInSession := false
  tried := []
  opened := []
  closed := []
  resolved := []
  executed := []

namespace State

/-- The function returns or throws, and `Scope::~Scope` closes the descriptor;
`src/core/trust/mir/agent.cpp:242–257`. -/
def finish (s : State) (result : Except Exception Answer) : State :=
  { s with
    location := .finished result
    closed := if s.scopeFd = -1 then s.closed else s.closed ++ [s.scopeFd] }

/-- `mir::Agent::on_trust_session_changed_state`; `src/core/trust/mir/agent.cpp:169–192`. -/
def onTrustSessionChangedState (s : State) (state : PromptSessionState) : State :=
  if state ≠ .stopped then s
  else
    match s.promptProviderProcess with
    | .invalid => s
    | .provider => { s with provider := s.provider.kill }

/-- The callback kills the process that its context names, or does nothing. -/
theorem onTrustSessionChangedState_cases (s : State) (state : PromptSessionState) :
    state = .stopped ∧ s.promptProviderProcess = .provider ∧
        s.onTrustSessionChangedState state = { s with provider := s.provider.kill } ∨
      (state ≠ .stopped ∨ s.promptProviderProcess = .invalid) ∧
        s.onTrustSessionChangedState state = s := by
  rw [onTrustSessionChangedState]
  by_cases hstate : state = .stopped
  · cases s.promptProviderProcess <;> simp [hstate]
  · simp [hstate]

/-- The error message of the new session decides whether it is used, another process is tried
or the call fails; `src/core/trust/mir/agent.cpp:276–287`. -/
def inspect (s : State) (pid : Pid) : State :=
  if s.error = "" then { s with location := .acquiring }
  else if errorNoSession.toList.isPrefixOf s.error.toList then
    { s with location := .resolvingParent pid }
  else s.finish (.error (.runtimeError ("Unable to create a prompt session: " ++ s.error)))

/-- The parent is tried next, unless it is init; `src/core/trust/mir/agent.cpp:289–297`. -/
def ascend (s : State) (parameters : RequestParameters) (pid : Pid) : State :=
  if pid.value ≤ 1 then
    s.finish (.error (.runtimeError ("Could not identify Mir session associated with pid " ++
      toString parameters.application.pid.value)))
  else { s with location := .creating pid }

/-- `PromptSessionVirtualTable::new_fd_for_prompt_provider` up to its check of the descriptor;
`src/core/trust/mir/agent.cpp:66–81`. -/
def acquire (s : State) (fd : Int32) : State :=
  if fd = -1 then
    s.finish (.error (.runtimeError
      "Could not acquire pre-authenticated file descriptors for Mir prompt session."))
  else { s with location := .clearing fd, opened := s.opened ++ [fd] }

end State

/-- One step of a call, or of what happens around it. -/
def step (translator : WaitResult → Except Exception Answer) (parameters : RequestParameters)
    (s : State) (label : Label) : Option State :=
  match label, s.location with
  | .createPromptSessionSync outcome, .creating pid =>
    match outcome with
    | .ok error => some
        { s with
          location := .inspecting pid
          sessions := s.sessions + 1
          error := error
          stopped := false
          tried := s.tried ++ [pid] }
    | .error e => some ({ s with tried := s.tried ++ [pid] }.finish (.error e))
  | .errorMessage, .inspecting pid => some (s.inspect pid)
  | .parentPidResolver outcome, .resolvingParent _ =>
    match outcome with
    | .ok parent => some (s.ascend parameters parent)
    | .error e => some (s.finish (.error e))
  | .newFd fd, .acquiring => some (s.acquire fd)
  | .fcntl errno, .clearing fd =>
    match errno with
    | none => some { s with location := .resolving, scopeFd := fd }
    | some errno => some (s.finish (.error (.systemError errno)))
  | .resolve outcome, .resolving =>
    let s := { s with resolved := s.resolved ++ [parameters.application.id] }
    match outcome with
    | .ok appInfo => some
        { s with location := .executing ⟨s.scopeFd, appInfo, parameters.description⟩ }
    | .error e => some (s.finish (.error e))
  | .execPromptProvider outcome, .executing args =>
    match outcome with
    | .ok _ => some
        { s with location := .storing, provider := .running, executed := s.executed ++ [args] }
    | .error e => some (s.finish (.error e))
  | .store, .storing => some { s with location := .waiting, promptProviderProcess := .provider }
  | .waitFor, .waiting =>
    s.provider.report.map fun result => { s with location := .translating result }
  | .waitFails e, .waiting => some (s.finish (.error e))
  | .translate, .translating result => some (s.finish (translator result))
  | .providerExits status, _ =>
    if s.provider = .running then
      some { s with provider := .exited status, exitedInSession := !s.stopped }
    else none
  | .providerSignaled, _ =>
    if s.provider = .running ∨ s.provider = .suspended then some { s with provider := .signaled }
    else none
  | .providerSuspended, _ =>
    if s.provider = .running then some { s with provider := .suspended } else none
  | .providerContinued, _ =>
    if s.provider = .suspended then some { s with provider := .running } else none
  -- the context lives as long as the call, and an older session may still report
  | .sessionChanged _ _, .finished _ => none
  | .sessionChanged session state, _ =>
    if 0 < session ∧ session ≤ s.sessions then
      some
        { s.onTrustSessionChangedState state with
          stopped := s.stopped || (state = .stopped && session = s.sessions) }
    else none
  | _, _ => none

/-! ### What a step can do -/

/-- The cases of a step that the call takes itself. -/
inductive OwnSteps (translator : WaitResult → Except Exception Answer)
    (parameters : RequestParameters) (s : State) : Label → State → Prop
  | createPromptSessionSync {pid error} (h : s.location = .creating pid) :
      OwnSteps translator parameters s (.createPromptSessionSync (.ok error))
        { s with
          location := .inspecting pid
          sessions := s.sessions + 1
          error := error
          stopped := false
          tried := s.tried ++ [pid] }
  | createPromptSessionSyncThrows {pid e} (h : s.location = .creating pid) :
      OwnSteps translator parameters s (.createPromptSessionSync (.error e))
        ({ s with tried := s.tried ++ [pid] }.finish (.error e))
  | created {pid} (h : s.location = .inspecting pid) (herror : s.error = "") :
      OwnSteps translator parameters s .errorMessage { s with location := .acquiring }
  | noSession {pid} (h : s.location = .inspecting pid) (herror : s.error ≠ "")
      (hbegins : errorNoSession.toList.isPrefixOf s.error.toList = true) :
      OwnSteps translator parameters s .errorMessage { s with location := .resolvingParent pid }
  | notCreated {pid} (h : s.location = .inspecting pid) (herror : s.error ≠ "")
      (hbegins : errorNoSession.toList.isPrefixOf s.error.toList = false) :
      OwnSteps translator parameters s .errorMessage
        (s.finish (.error (.runtimeError ("Unable to create a prompt session: " ++ s.error))))
  | parentPidResolver {pid parent} (h : s.location = .resolvingParent pid)
      (hparent : ¬ parent.value ≤ 1) :
      OwnSteps translator parameters s (.parentPidResolver (.ok parent))
        { s with location := .creating parent }
  | noParent {pid parent} (h : s.location = .resolvingParent pid) (hparent : parent.value ≤ 1) :
      OwnSteps translator parameters s (.parentPidResolver (.ok parent))
        (s.finish (.error (.runtimeError ("Could not identify Mir session associated with pid " ++
          toString parameters.application.pid.value))))
  | parentPidResolverThrows {pid e} (h : s.location = .resolvingParent pid) :
      OwnSteps translator parameters s (.parentPidResolver (.error e)) (s.finish (.error e))
  | newFd {fd} (h : s.location = .acquiring) (hfd : fd ≠ -1) :
      OwnSteps translator parameters s (.newFd fd)
        { s with location := .clearing fd, opened := s.opened ++ [fd] }
  | newFdInvalid (h : s.location = .acquiring) :
      OwnSteps translator parameters s (.newFd (-1))
        (s.finish (.error (.runtimeError
          "Could not acquire pre-authenticated file descriptors for Mir prompt session.")))
  | fcntl {fd} (h : s.location = .clearing fd) :
      OwnSteps translator parameters s (.fcntl none)
        { s with location := .resolving, scopeFd := fd }
  | fcntlFails {fd errno} (h : s.location = .clearing fd) :
      OwnSteps translator parameters s (.fcntl (some errno))
        (s.finish (.error (.systemError errno)))
  | resolve {appInfo} (h : s.location = .resolving) :
      OwnSteps translator parameters s (.resolve (.ok appInfo))
        { s with
          location := .executing ⟨s.scopeFd, appInfo, parameters.description⟩
          resolved := s.resolved ++ [parameters.application.id] }
  | resolveThrows {e} (h : s.location = .resolving) :
      OwnSteps translator parameters s (.resolve (.error e))
        ({ s with resolved := s.resolved ++ [parameters.application.id] }.finish (.error e))
  | execPromptProvider {args} (h : s.location = .executing args) :
      OwnSteps translator parameters s (.execPromptProvider (.ok ⟨⟩))
        { s with location := .storing, provider := .running, executed := s.executed ++ [args] }
  | execPromptProviderThrows {args e} (h : s.location = .executing args) :
      OwnSteps translator parameters s (.execPromptProvider (.error e)) (s.finish (.error e))
  | store (h : s.location = .storing) :
      OwnSteps translator parameters s .store
        { s with location := .waiting, promptProviderProcess := .provider }
  | waitFor {result} (h : s.location = .waiting) (hreport : s.provider.report = some result) :
      OwnSteps translator parameters s .waitFor { s with location := .translating result }
  | waitFails {e} (h : s.location = .waiting) :
      OwnSteps translator parameters s (.waitFails e) (s.finish (.error e))
  | translate {result} (h : s.location = .translating result) :
      OwnSteps translator parameters s .translate (s.finish (translator result))

/-- The cases of a step. -/
inductive Steps (translator : WaitResult → Except Exception Answer)
    (parameters : RequestParameters) (s : State) : Label → State → Prop
  | own {label t} (h : OwnSteps translator parameters s label t) :
      Steps translator parameters s label t
  | providerExits {status} (hrunning : s.provider = .running) :
      Steps translator parameters s (.providerExits status)
        { s with provider := .exited status, exitedInSession := !s.stopped }
  | providerSignaled (hlive : s.provider = .running ∨ s.provider = .suspended) :
      Steps translator parameters s .providerSignaled { s with provider := .signaled }
  | providerSuspended (hrunning : s.provider = .running) :
      Steps translator parameters s .providerSuspended { s with provider := .suspended }
  | providerContinued (hsuspended : s.provider = .suspended) :
      Steps translator parameters s .providerContinued { s with provider := .running }
  | sessionChanged {session state} (hactive : ∀ result, s.location ≠ .finished result)
      (hsession : 0 < session ∧ session ≤ s.sessions) :
      Steps translator parameters s (.sessionChanged session state)
        { s.onTrustSessionChangedState state with
          stopped := s.stopped || (state = .stopped && session = s.sessions) }

variable {translator : WaitResult → Except Exception Answer} {parameters : RequestParameters}
  {s t : State} {label : Label}

/-- Every step is one of the cases. -/
theorem steps_of_step (hstep : step translator parameters s label = some t) :
    Steps translator parameters s label t := by
  unfold step at hstep
  split at hstep
  next outcome pid h =>
    cases outcome <;> cases hstep
    · exact .own (.createPromptSessionSyncThrows h)
    · exact .own (.createPromptSessionSync h)
  next pid h =>
    cases hstep
    rw [State.inspect]
    split
    next herror => exact .own (.created h herror)
    next herror =>
      split
      next hbegins => exact .own (.noSession h herror hbegins)
      next hbegins => exact .own (.notCreated h herror (eq_false_of_ne_true hbegins))
  next outcome pid h =>
    cases outcome <;> cases hstep
    · exact .own (.parentPidResolverThrows h)
    · rw [State.ascend]
      split
      next hparent => exact .own (.noParent h hparent)
      next hparent => exact .own (.parentPidResolver h hparent)
  next fd h =>
    cases hstep
    rw [State.acquire]
    split
    next hfd => exact .own (hfd ▸ .newFdInvalid h)
    next hfd => exact .own (.newFd h hfd)
  next errno fd h =>
    cases errno <;> cases hstep
    · exact .own (.fcntl h)
    · exact .own (.fcntlFails h)
  next outcome h =>
    cases outcome <;> cases hstep
    · exact .own (.resolveThrows h)
    · exact .own (.resolve h)
  next outcome args h =>
    cases outcome <;> cases hstep
    · exact .own (.execPromptProviderThrows h)
    · exact .own (.execPromptProvider h)
  next h =>
    cases hstep
    exact .own (.store h)
  next h =>
    obtain ⟨result, hreport, ht⟩ := Option.map_eq_some_iff.mp hstep
    cases ht
    exact .own (.waitFor h hreport)
  next e h =>
    cases hstep
    exact .own (.waitFails h)
  next result h =>
    cases hstep
    exact .own (.translate h)
  next status =>
    split at hstep <;> cases hstep
    next hrunning => exact .providerExits hrunning
  next =>
    split at hstep <;> cases hstep
    next hlive => exact .providerSignaled hlive
  next =>
    split at hstep <;> cases hstep
    next hrunning => exact .providerSuspended hrunning
  next =>
    split at hstep <;> cases hstep
    next hsuspended => exact .providerContinued hsuspended
  next => cases hstep
  next session state hactive =>
    split at hstep <;> cases hstep
    next hsession => exact .sessionChanged hactive hsession
  next => cases hstep

/-- A step that is not taken by the call itself. -/
def Label.outside : Label → Bool
  | providerExits _ | providerSignaled | providerSuspended | providerContinued
  | sessionChanged .. => true
  | createPromptSessionSync _ | errorMessage | parentPidResolver _ | newFd _ | fcntl _ | resolve _
  | execPromptProvider _ | store | waitFor | waitFails _ | translate => false

/-- The call is where it was. -/
structure SameCall (s t : State) : Prop where
  location : t.location = s.location
  sessions : t.sessions = s.sessions
  error : t.error = s.error
  scopeFd : t.scopeFd = s.scopeFd
  tried : t.tried = s.tried
  opened : t.opened = s.opened
  closed : t.closed = s.closed
  resolved : t.resolved = s.resolved
  executed : t.executed = s.executed

/-- What happens outside of a call changes nothing about it. -/
theorem Steps.own_or_same (h : Steps translator parameters s label t) :
    OwnSteps translator parameters s label t ∨ label.outside = true ∧ SameCall s t := by
  cases h with
  | own h => exact .inl h
  | providerExits | providerSignaled | providerSuspended | providerContinued =>
    exact .inr ⟨rfl, rfl, rfl, rfl, rfl, rfl, rfl, rfl, rfl, rfl⟩
  | @sessionChanged session state =>
    rcases s.onTrustSessionChangedState_cases state with ⟨-, -, h'⟩ | ⟨-, h'⟩ <;> rw [h'] <;>
      exact .inr ⟨rfl, rfl, rfl, rfl, rfl, rfl, rfl, rfl, rfl, rfl⟩

/-! ### What the next call says about the provider -/

/-- A result of waiting that the provider has given. It may go on after it was suspended. -/
def Provider.Reported (provider : Provider) : WaitResult → Prop
  | .exited status => provider = .exited status
  | .signaled => provider = .signaled
  | .stopped => provider ≠ .notStarted

/-- The provider is started for a session without error only, and a call that returns has
translated a result of the provider. -/
def Fits (translator : WaitResult → Except Exception Answer) (error : String)
    (provider : Provider) : Location → Prop
  | .creating _ | .inspecting _ | .resolvingParent _ => provider = .notStarted
  | .acquiring | .clearing _ | .resolving | .executing _ => provider = .notStarted ∧ error = ""
  | .storing | .waiting => provider ≠ .notStarted
  | .translating result => provider.Reported result
  | .finished (.ok answer) => ∃ result, provider.Reported result ∧ translator result = .ok answer
  | .finished (.error _) => True

/-- What holds in every state of a call. -/
structure Consistent (translator : WaitResult → Except Exception Answer) (s : State) : Prop where
  fits : Fits translator s.error s.provider s.location
  stored : s.promptProviderProcess = .provider → s.provider ≠ .notStarted
  used : s.provider ≠ .notStarted → s.error = ""

private theorem report_reported {provider : Provider} {result : WaitResult}
    (h : provider.report = some result) : provider.Reported result := by
  cases provider <;> simp only [Provider.report, Option.some.injEq, reduceCtorEq] at h <;>
    subst h <;> simp [Provider.Reported]

/-- A live provider may come to its end, or be suspended or continued, at any location. -/
private theorem fits_live {error : String} {p q : Provider} {location : Location}
    (h : Fits translator error p location) (hp : p = .running ∨ p = .suspended)
    (hq : q ≠ .notStarted) : Fits translator error q location := by
  have hreported : ∀ {result}, p.Reported result → q.Reported result := by
    intro result hresult
    cases result with
    | exited status =>
      rw [Provider.Reported] at hresult
      rcases hp with hp | hp <;> simp [hp] at hresult
    | signaled =>
      rw [Provider.Reported] at hresult
      rcases hp with hp | hp <;> simp [hp] at hresult
    | stopped => exact hq
  cases location with
  | creating _ | inspecting _ | resolvingParent _ =>
    rcases hp with rfl | rfl <;> simp [Fits] at h
  | acquiring | clearing _ | resolving | executing _ =>
    rcases hp with rfl | rfl <;> simp [Fits] at h
  | storing | waiting => exact hq
  | translating result => exact hreported h
  | finished result =>
    cases result with
    | error e => trivial
    | ok answer =>
      obtain ⟨result, hresult, htranslated⟩ := h
      exact ⟨result, hreported hresult, htranslated⟩

private theorem kill_cases (p : Provider) :
    p.kill = p ∨ (p = .running ∨ p = .suspended) ∧ p.kill = .signaled := by
  cases p <;> simp [Provider.kill]

private theorem consistent_live {s t : State} (h : Consistent translator s)
    (hp : s.provider = .running ∨ s.provider = .suspended) (hq : t.provider ≠ .notStarted)
    (hlocation : t.location = s.location) (herror : t.error = s.error) :
    Consistent translator t := by
  have hstarted : s.provider ≠ .notStarted := by
    rcases hp with hp | hp <;> simp [hp]
  refine ⟨?_, fun _ => hq, fun _ => herror.trans (h.used hstarted)⟩
  rw [hlocation, herror]
  exact fits_live h.fits hp hq

/-- Every step of a call keeps it consistent. -/
theorem consistent_step (h : Consistent translator s)
    (hstep : step translator parameters s label = some t) : Consistent translator t := by
  have hfits := h.fits
  cases steps_of_step hstep with
  | own hown =>
    cases hown with
    | createPromptSessionSync hlocation =>
      rw [hlocation] at hfits
      exact ⟨hfits, h.stored, fun hstarted => absurd hfits hstarted⟩
    | created hlocation herror =>
      rw [hlocation] at hfits
      exact ⟨⟨hfits, herror⟩, h.stored, h.used⟩
    | noSession hlocation | parentPidResolver hlocation | newFd hlocation | fcntl hlocation
    | resolve hlocation =>
      rw [hlocation] at hfits
      exact ⟨hfits, h.stored, h.used⟩
    | createPromptSessionSyncThrows | notCreated | noParent | parentPidResolverThrows | newFdInvalid
    | fcntlFails | resolveThrows | execPromptProviderThrows | waitFails =>
      exact ⟨trivial, h.stored, h.used⟩
    | execPromptProvider hlocation =>
      rw [hlocation] at hfits
      exact ⟨by simp [Fits], by simp, fun _ => hfits.2⟩
    | store hlocation =>
      rw [hlocation] at hfits
      exact ⟨hfits, fun _ => hfits, h.used⟩
    | waitFor hlocation hreport => exact ⟨report_reported hreport, h.stored, h.used⟩
    | @translate result hlocation =>
      rw [hlocation] at hfits
      refine ⟨?_, h.stored, h.used⟩
      rw [State.finish]
      cases htranslated : translator result with
      | error e => trivial
      | ok answer => exact ⟨result, hfits, htranslated⟩
  | providerExits hrunning | providerSuspended hrunning =>
    exact consistent_live h (.inl hrunning) (by simp) rfl rfl
  | providerSignaled hlive => exact consistent_live h hlive (by simp) rfl rfl
  | providerContinued hsuspended => exact consistent_live h (.inr hsuspended) (by simp) rfl rfl
  | @sessionChanged session state =>
    rcases s.onTrustSessionChangedState_cases state with ⟨-, hchild, h'⟩ | ⟨-, h'⟩
    · rw [h']
      rcases kill_cases s.provider with hkill | ⟨hlive, hkill⟩
      · simp only [hkill]
        exact ⟨h.fits, h.stored, h.used⟩
      · exact consistent_live h hlive (by simp [hkill]) rfl rfl
    · rw [h']
      exact ⟨h.fits, h.stored, h.used⟩

/-- A call is consistent from its start. -/
theorem consistent_start : Consistent translator (start parameters) :=
  ⟨rfl, by simp [start], by simp [start]⟩

/-- Every state that a call reaches is consistent. -/
theorem consistent_run {labels : List Label} {t : State}
    (hrun : Transition.run (step translator parameters) (start parameters) labels = some t) :
    Consistent translator t :=
  Transition.invariant_run (fun _ _ _ hs _ hstep => consistent_step hs hstep) consistent_start
    (Transition.meets_true _ _) hrun

end TrustStore.Mir
