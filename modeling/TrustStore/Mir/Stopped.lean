import TrustStore.Mir.Agent

/-!
# Prompts whose session is stopped

`mir::Agent` promises not to grant a request unless the prompt provider exited before the
session stopped. The callback for a stopped session kills the process that its context names,
and the context names none until the provider runs: a session that stops before leaves the
provider alive, and a grant is returned that was given after the session stopped. A call during
which this does not happen keeps the promise.
-/

namespace TrustStore.Mir

open TrustStore.Base

/-- If a call grants the request, the provider exited by itself before the session stopped. -/
def GrantedInSession (s : State) : Prop :=
  s.location = .finished (.ok .granted) → s.exitedInSession = true

/-- The callback for the session in use is not late: the session does not stop before the
context names the provider, unless the provider is over by then. -/
def OnTime (s : State) : Label → Prop
  | .sessionChanged session .stopped =>
    session = s.sessions → s.error = "" →
      s.promptProviderProcess = .provider ∨ s.provider.Over
  | _ => True

instance (s : State) : (label : Label) → Decidable (OnTime s label)
  | .sessionChanged session .stopped => by
    unfold OnTime
    infer_instance
  | .sessionChanged _ .started | .sessionChanged _ .suspended
  | .createPromptSessionSync _ | .errorMessage | .parentPidResolver _ | .newFd _ | .fcntl _
  | .resolve _ | .execPromptProvider _ | .store | .waitFor | .waitFails _ | .translate
  | .providerExits _ | .providerSignaled | .providerSuspended | .providerContinued =>
    .isTrue trivial

/-- The provider does not outlive the session that it was started for. -/
structure Orderly (translator : WaitResult → Except Exception Answer) (s : State) : Prop where
  consistent : Consistent translator s
  stopped : s.stopped = true → s.error = "" → s.provider.Over
  exited : ∀ status, s.provider = .exited status → s.exitedInSession = true

/-- A step that concerns neither the session nor the provider. -/
structure Aside (s t : State) : Prop where
  provider : t.provider = s.provider
  error : t.error = s.error
  stopped : t.stopped = s.stopped
  exitedInSession : t.exitedInSession = s.exitedInSession

variable {translator : WaitResult → Except Exception Answer} {parameters : RequestParameters}

private theorem orderly_aside {s t : State} (h : Orderly translator s)
    (hconsistent : Consistent translator t) (haside : Aside s t) : Orderly translator t := by
  refine ⟨hconsistent, ?_, ?_⟩
  · rw [haside.stopped, haside.error, haside.provider]
    exact h.stopped
  · rw [haside.provider, haside.exitedInSession]
    exact h.exited

private theorem kill_over {p : Provider} (h : p ≠ .notStarted) : p.kill.Over := by
  cases p <;> simp_all [Provider.kill, Provider.Over]

private theorem kill_exited {p : Provider} {status : UInt8} (h : p.kill = .exited status) :
    p = .exited status := by
  cases p <;> simp_all [Provider.kill]

/-- While the provider is alive, its session has not stopped. -/
private theorem stopped_of_live {s : State} (h : Orderly translator s)
    (hlive : s.provider = .running ∨ s.provider = .suspended) : s.stopped = false := by
  cases hstopped : s.stopped with
  | false => rfl
  | true =>
    have herror : s.error = "" := by
      apply h.consistent.used
      rcases hlive with hlive | hlive <;> simp [hlive]
    have hover := h.stopped hstopped herror
    rcases hlive with hlive | hlive <;> simp [hlive, Provider.Over] at hover

/-- What the callback leaves of a stopped session, if it is on time. -/
private theorem stopped_callback {s : State} {session : Nat} {state : PromptSessionState}
    (h : Orderly translator s) (hontime : OnTime s (.sessionChanged session state)) :
    (s.stopped || (state = .stopped && session = s.sessions)) = true →
      (s.onTrustSessionChangedState state).error = "" →
        (s.onTrustSessionChangedState state).provider.Over := by
  intro hstopped herror
  rcases s.onTrustSessionChangedState_cases state with ⟨-, hchild, h'⟩ | ⟨hwhy, h'⟩
  · rw [h']
    exact kill_over (h.consistent.stored hchild)
  · rw [h'] at herror ⊢
    by_cases hnow : state = .stopped ∧ session = s.sessions
    · obtain ⟨rfl, hsession⟩ := hnow
      rcases hontime hsession herror with hprovider | hover
      · simp [hprovider] at hwhy
      · exact hover
    · rw [← Bool.decide_and, decide_eq_false hnow, Bool.or_false] at hstopped
      exact h.stopped hstopped herror

private theorem exited_callback {s : State} {state : PromptSessionState}
    (h : Orderly translator s) (status : UInt8)
    (hexited : (s.onTrustSessionChangedState state).provider = .exited status) :
    (s.onTrustSessionChangedState state).exitedInSession = true := by
  rcases s.onTrustSessionChangedState_cases state with ⟨-, -, h'⟩ | ⟨-, h'⟩
  · rw [h'] at hexited ⊢
    exact h.exited status (kill_exited hexited)
  · rw [h'] at hexited ⊢
    exact h.exited status hexited

/-- Steps on time keep the provider within its session. -/
theorem orderly_step {s t : State} {label : Label} (h : Orderly translator s)
    (hontime : OnTime s label) (hstep : step translator parameters s label = some t) :
    Orderly translator t := by
  have hconsistent := consistent_step h.consistent hstep
  have hfits := h.consistent.fits
  cases steps_of_step hstep with
  | own hown =>
    cases hown with
    | createPromptSessionSync => exact ⟨hconsistent, by simp, h.exited⟩
    | createPromptSessionSyncThrows | created | noSession | notCreated | parentPidResolver
    | noParent | parentPidResolverThrows | newFd | newFdInvalid | fcntl | fcntlFails | resolve
    | resolveThrows | execPromptProviderThrows | store | waitFor | waitFails | translate =>
      exact orderly_aside h hconsistent ⟨rfl, rfl, rfl, rfl⟩
    | execPromptProvider hlocation =>
      rw [hlocation] at hfits
      refine ⟨hconsistent, ?_, by simp⟩
      intro hstopped
      -- a session that has stopped would have its provider over, but none is started yet
      have hover := h.stopped hstopped hfits.2
      rw [hfits.1] at hover
      exact hover.elim
  | providerExits hrunning =>
    have hstopped := stopped_of_live h (.inl hrunning)
    exact ⟨hconsistent, by simp [hstopped], by simp [hstopped]⟩
  | providerSignaled => exact ⟨hconsistent, by simp [Provider.Over], by simp⟩
  | providerSuspended hrunning =>
    exact ⟨hconsistent, by simp [stopped_of_live h (.inl hrunning)], by simp⟩
  | providerContinued hsuspended =>
    exact ⟨hconsistent, by simp [stopped_of_live h (.inr hsuspended)], by simp⟩
  | sessionChanged => exact ⟨hconsistent, stopped_callback h hontime, exited_callback h⟩

/-- A call is orderly at its start. -/
theorem orderly_start : Orderly translator (start parameters) :=
  ⟨consistent_start, by simp [start], by simp [start]⟩

/-- A call whose callback is not late grants the request only if the provider exited by itself
before the session stopped. -/
theorem grantedInSession_run {labels : List Label} {t : State}
    (hontime : Transition.Meets (step translatorOnlyAcceptingExitStatusSuccess parameters) OnTime
      (start parameters) labels)
    (hrun : Transition.run (step translatorOnlyAcceptingExitStatusSuccess parameters)
      (start parameters) labels = some t) : GrantedInSession t := by
  have ht := Transition.invariant_run (fun _ _ _ hs hl hstep => orderly_step hs hl hstep)
    orderly_start hontime hrun
  intro hgranted
  have hfits := ht.consistent.fits
  rw [hgranted] at hfits
  obtain ⟨result, hreported, htranslated⟩ := hfits
  obtain ⟨status, rfl, -⟩ := translateExit_granted_iff.mp htranslated
  exact ht.exited status hreported

/-- A request for the feature 1 by the application `app`. -/
def request : RequestParameters := ⟨⟨⟨1000⟩, ⟨42⟩, "app"⟩, ⟨1⟩, "Access?"⟩

/-- A prompt is granted and the session stops afterwards. -/
def stoppedAfterwards : List Label :=
  [.createPromptSessionSync (.ok ""), .errorMessage, .newFd 3, .fcntl none,
    .resolve (.ok ⟨"icon", "App", "app"⟩), .execPromptProvider (.ok ⟨⟩), .store, .providerExits 0,
    .sessionChanged 1 .stopped, .waitFor, .translate]

/-- A session stops while the descriptor for the provider is acquired. -/
def stoppedBefore : List Label :=
  [.createPromptSessionSync (.ok ""), .errorMessage, .sessionChanged 1 .stopped, .newFd 3,
    .fcntl none, .resolve (.ok ⟨"icon", "App", "app"⟩), .execPromptProvider (.ok ⟨⟩), .store,
    .providerExits 0, .waitFor, .translate]

/-- The promise is kept where the session stops after the provider exited. -/
theorem grantedInSession_stoppedAfterwards : ∃ t,
    Transition.run (step translatorOnlyAcceptingExitStatusSuccess request) (start request)
      stoppedAfterwards = some t ∧ t.location = .finished (.ok .granted) ∧ GrantedInSession t := by
  refine ⟨_, rfl, rfl, ?_⟩
  have hrun : Transition.run (step translatorOnlyAcceptingExitStatusSuccess request)
      (start request) stoppedAfterwards = some _ := rfl
  exact grantedInSession_run (by decide) hrun

/-- A request is granted although the session stopped before the provider was even started. -/
theorem not_grantedInSession_stoppedBefore : ∃ t,
    Transition.run (step translatorOnlyAcceptingExitStatusSuccess request) (start request)
      stoppedBefore = some t ∧ ¬ GrantedInSession t := by
  refine ⟨_, rfl, ?_⟩
  intro h
  exact absurd (h rfl) (by decide)

end TrustStore.Mir
