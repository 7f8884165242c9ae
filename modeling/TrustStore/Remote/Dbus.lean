import TrustStore.Dbus.AgentRegistry

/-!
# Sending requests to agents on the bus

Models `remote::dbus::Agent::Stub::send`, `src/core/trust/remote/dbus.cpp:37–45`: any number of
calls on one stub, while agents are registered and unregistered. A call asks the registry twice,
and the registry locks itself for one question at a time.
-/

namespace TrustStore.Remote.Dbus.Stub

open TrustStore.Base
open TrustStore.Dbus.AgentRegistry (LockingAgentRegistry)

/-- Names for calls, each of them made once. -/
abbrev CallId := Nat

/-- How far a call has come. -/
inductive Progress (α : Type) where
  | idle
  | entered
  /-- the registry had an agent for the user -/
  | checked
  | resolved (agent : α)
  | finished (outcome : Except Exception Answer)
  deriving Repr

/-- A call is being made. -/
def Progress.ongoing {α : Type} : Progress α → Bool
  | idle | finished _ => false
  | entered | checked | resolved _ => true

/-- What an agent was asked, and how it answered. -/
structure Exchange (α : Type) where
  agent : α
  parameters : RequestParameters
  outcome : Except Exception Answer

/-- The registry, the calls and the agents that they asked. -/
structure State (α : Type) where
  agentRegistry : LockingAgentRegistry α
  calls : CallId → Progress α
  exchanges : CallId → List (Exchange α)

/-- Nothing is registered. -/
def start (α : Type) : State α := ⟨fun _ => none, fun _ => .idle, fun _ => []⟩

/-- One operation on the registry, the entry of a call, or an agent that returns or throws. -/
inductive Label (α : Type) where
  | registerAgentForUser (uid : Uid) (agent : α)
  | unregisterAgentForUser (uid : Uid)
  | enter (call : CallId)
  | hasAgentForUser (call : CallId)
  | agentForUser (call : CallId)
  | authenticate (call : CallId) (outcome : Except Exception Answer)

variable {α : Type}

/-- The call that takes the step. -/
def Label.call : Label α → Option CallId
  | registerAgentForUser .. | unregisterAgentForUser _ => none
  | enter i | hasAgentForUser i | agentForUser i | authenticate i _ => some i

/-- A call goes on. -/
def State.goOn (s : State α) (i : CallId) (progress : Progress α) : State α :=
  { s with calls := Function.update s.calls i progress }

variable (parameters : CallId → RequestParameters)

/-- One step of the system; `src/core/trust/remote/dbus.cpp:37–45`. -/
def step (s : State α) : Label α → Option (State α)
  | .registerAgentForUser uid agent =>
    some { s with agentRegistry := s.agentRegistry.registerAgentForUser uid agent }
  | .unregisterAgentForUser uid =>
    some { s with agentRegistry := s.agentRegistry.unregisterAgentForUser uid }
  | .enter i =>
    match s.calls i with
    | .idle => some (s.goOn i .entered)
    | _ => none
  | .hasAgentForUser i =>
    match s.calls i with
    | .entered =>
      if s.agentRegistry.hasAgentForUser (parameters i).application.uid then
        some (s.goOn i .checked)
      else some (s.goOn i (.finished (.ok .denied)))
    | _ => none
  | .agentForUser i =>
    match s.calls i with
    | .checked =>
      match s.agentRegistry.agentForUser (parameters i).application.uid with
      | .ok agent => some (s.goOn i (.resolved agent))
      | .error e => some (s.goOn i (.finished (.error e)))
    | _ => none
  | .authenticate i outcome =>
    match s.calls i with
    | .resolved agent => some
        { s.goOn i (.finished outcome) with
          exchanges := Function.update s.exchanges i
            (s.exchanges i ++ [⟨agent, parameters i, outcome⟩]) }
    | _ => none

/-- At some moment of the run the call was being made and the registry had this for its user. -/
def During (ls : List (Label α)) (i : CallId) (found : Option α) : Prop :=
  Transition.Visits (step parameters)
    (fun s => (s.calls i).ongoing ∧ s.agentRegistry (parameters i).application.uid = found)
    (start α) ls

/-- A call returns that its request is denied, without asking anyone, as its user had no agent at
some moment, or what the only agent that it asked with its parameters returned or threw, which was
the agent of its user at some moment. -/
def Justified (ls : List (Label α)) (s : State α) (i : CallId)
    (outcome : Except Exception Answer) : Prop :=
  outcome = .ok .denied ∧ s.exchanges i = [] ∧ During parameters ls i none ∨
    ∃ agent, s.exchanges i = [⟨agent, parameters i, outcome⟩] ∧
      During parameters ls i (some agent)

/-- Every call that is over ended as it should. -/
def Serves (ls : List (Label α)) (s : State α) : Prop :=
  ∀ i outcome, s.calls i = .finished outcome → Justified parameters ls s i outcome

/-- If a call looks its agent up, its user has one. -/
def Finds (s : State α) : Label α → Prop
  | .agentForUser i => (s.agentRegistry (parameters i).application.uid).isSome
  | _ => True

instance (s : State α) (label : Label α) : Decidable (Finds parameters s label) := by
  cases label <;> unfold Finds <;> infer_instance

variable {parameters : CallId → RequestParameters} {s t : State α} {label : Label α}

/-- The cases of a step. -/
inductive Steps (parameters : CallId → RequestParameters) (s : State α) :
    Label α → State α → Prop
  | registerAgentForUser {uid agent} :
      Steps parameters s (.registerAgentForUser uid agent)
        { s with agentRegistry := s.agentRegistry.registerAgentForUser uid agent }
  | unregisterAgentForUser {uid} :
      Steps parameters s (.unregisterAgentForUser uid)
        { s with agentRegistry := s.agentRegistry.unregisterAgentForUser uid }
  | enter {i} (hi : s.calls i = .idle) : Steps parameters s (.enter i) (s.goOn i .entered)
  | hasAgentForUser {i} (hi : s.calls i = .entered)
      (hhas : s.agentRegistry.hasAgentForUser (parameters i).application.uid) :
      Steps parameters s (.hasAgentForUser i) (s.goOn i .checked)
  | hasNoAgentForUser {i} (hi : s.calls i = .entered)
      (hnone : s.agentRegistry (parameters i).application.uid = none) :
      Steps parameters s (.hasAgentForUser i) (s.goOn i (.finished (.ok .denied)))
  | agentForUser {i agent} (hi : s.calls i = .checked)
      (hagent : s.agentRegistry (parameters i).application.uid = some agent) :
      Steps parameters s (.agentForUser i) (s.goOn i (.resolved agent))
  | agentForUserThrows {i} (hi : s.calls i = .checked)
      (hnone : s.agentRegistry (parameters i).application.uid = none) :
      Steps parameters s (.agentForUser i) (s.goOn i (.finished (.error .outOfRange)))
  | authenticate {i agent outcome} (hi : s.calls i = .resolved agent) :
      Steps parameters s (.authenticate i outcome)
        { s.goOn i (.finished outcome) with
          exchanges := Function.update s.exchanges i
            (s.exchanges i ++ [⟨agent, parameters i, outcome⟩]) }

/-- Every step is one of the cases. -/
theorem steps_of_step (h : step parameters s label = some t) : Steps parameters s label t := by
  cases label with
  | registerAgentForUser uid agent =>
    cases h
    exact .registerAgentForUser
  | unregisterAgentForUser uid =>
    cases h
    exact .unregisterAgentForUser
  | enter i =>
    simp only [step] at h
    split at h
    next hi => cases h; exact .enter hi
    next => cases h
  | hasAgentForUser i =>
    simp only [step] at h
    split at h
    next hi =>
      split at h
      next hhas => cases h; exact .hasAgentForUser hi hhas
      next hhas =>
        cases h
        exact .hasNoAgentForUser hi (by simpa [LockingAgentRegistry.hasAgentForUser] using hhas)
    next => cases h
  | agentForUser i =>
    simp only [step, LockingAgentRegistry.agentForUser] at h
    split at h
    next hi =>
      cases hagent : s.agentRegistry (parameters i).application.uid with
      | some agent =>
        rw [hagent] at h
        cases h
        exact .agentForUser hi hagent
      | none =>
        rw [hagent] at h
        cases h
        exact .agentForUserThrows hi hagent
    next => cases h
  | authenticate i outcome =>
    simp only [step] at h
    split at h
    next hi => cases h; exact .authenticate hi
    next => cases h

/-- A step changes nothing about the other calls. -/
theorem Steps.frame (h : Steps parameters s label t) {i : CallId} (hi : label.call ≠ some i) :
    t.calls i = s.calls i ∧ t.exchanges i = s.exchanges i := by
  have hother : ∀ {j}, some j ≠ some i → i ≠ j := fun h hij => h (congrArg some hij.symm)
  cases h with
  | registerAgentForUser | unregisterAgentForUser => exact ⟨rfl, rfl⟩
  | enter | hasAgentForUser | hasNoAgentForUser | agentForUser | agentForUserThrows =>
    exact ⟨Function.update_of_ne (hother hi) _ _, rfl⟩
  | authenticate =>
    exact ⟨Function.update_of_ne (hother hi) _ _, Function.update_of_ne (hother hi) _ _⟩

/-- What is known about a call: it has asked nobody until it is over, and then ended as it should
have. -/
private def Kept (parameters : CallId → RequestParameters) (ls : List (Label α)) (s : State α)
    (i : CallId) : Prop :=
  match s.calls i with
  | .idle | .entered | .checked => s.exchanges i = []
  | .resolved agent => s.exchanges i = [] ∧ During parameters ls i (some agent)
  | .finished outcome => Justified parameters ls s i outcome

private theorem kept_frame {ls : List (Label α)} {i : CallId} (h : Kept parameters ls s i)
    (hcalls : t.calls i = s.calls i) (hexchanges : t.exchanges i = s.exchanges i)
    (label : Label α) : Kept parameters (ls ++ [label]) t i := by
  unfold Kept at h ⊢
  rw [hcalls, hexchanges]
  cases hi : s.calls i with
  | idle | entered | checked => simpa only [hi] using h
  | resolved agent =>
    simp only [hi] at h ⊢
    exact ⟨h.1, h.2.append [label]⟩
  | finished outcome =>
    simp only [hi] at h ⊢
    rcases h with ⟨hdenied, hnone, hduring⟩ | ⟨agent, hasked, hduring⟩
    · exact .inl ⟨hdenied, hexchanges.trans hnone, hduring.append [label]⟩
    · exact .inr ⟨agent, hexchanges.trans hasked, hduring.append [label]⟩

/-- What is known about a call stays known with its own steps. -/
private theorem kept_step {ls : List (Label α)} {i : CallId} (h : Kept parameters ls s i)
    (hrun : Transition.run (step parameters) (start α) ls = some s)
    (hfinds : Finds parameters s label) (hstep : Steps parameters s label t)
    (hi : label.call = some i) : Kept parameters (ls ++ [label]) t i := by
  have hduring : (s.calls i).ongoing → During parameters (ls ++ [label]) i
      (s.agentRegistry (parameters i).application.uid) := fun hongoing =>
    Transition.Visits.append (.last hrun ⟨hongoing, rfl⟩) [label]
  cases hstep with
  | registerAgentForUser | unregisterAgentForUser => cases hi
  | enter hidle =>
    cases hi
    simpa [Kept, State.goOn, hidle] using h
  | hasAgentForUser hentered hhas =>
    cases hi
    simpa [Kept, State.goOn, hentered] using h
  | hasNoAgentForUser hentered hnone =>
    cases hi
    have hexchanges : s.exchanges i = [] := by simpa only [Kept, hentered] using h
    rw [hentered, hnone] at hduring
    simp only [Kept, State.goOn, Function.update_self]
    exact .inl ⟨rfl, hexchanges, hduring rfl⟩
  | agentForUser hchecked hagent =>
    cases hi
    have hexchanges : s.exchanges i = [] := by simpa only [Kept, hchecked] using h
    rw [hchecked, hagent] at hduring
    simpa [Kept, State.goOn] using ⟨hexchanges, hduring rfl⟩
  | agentForUserThrows hchecked hnone =>
    cases hi
    rw [Finds, hnone] at hfinds
    cases hfinds
  | @authenticate i agent outcome hresolved =>
    cases hi
    have hknown : s.exchanges i = [] ∧ During parameters ls i (some agent) := by
      simpa only [Kept, hresolved] using h
    simp only [Kept, State.goOn, Function.update_self, Justified, hknown.1, List.nil_append]
    exact .inr ⟨agent, rfl, hknown.2.append _⟩

/-- In every run whose lookups find an agent, every call that is over ended as it should. -/
theorem serves_run {ls : List (Label α)}
    (hrun : Transition.run (step parameters) (start α) ls = some s)
    (hfinds : Transition.Meets (step parameters) (Finds parameters) (start α) ls) :
    Serves parameters ls s := by
  have hkeeps : ∀ before r label u,
      (Transition.run (step parameters) (start α) before = some r ∧
        ∀ i, Kept parameters before r i) →
      Finds parameters r label → step parameters r label = some u →
        Transition.run (step parameters) (start α) (before ++ [label]) = some u ∧
          ∀ i, Kept parameters (before ++ [label]) u i := by
    rintro before r label u ⟨hbefore, hknown⟩ hfound hstep
    refine ⟨Transition.run_concat hbefore hstep, fun i => ?_⟩
    by_cases hi : label.call = some i
    · exact kept_step (hknown i) hbefore hfound (steps_of_step hstep) hi
    · obtain ⟨hcalls, hexchanges⟩ := (steps_of_step hstep).frame hi
      exact kept_frame (hknown i) hcalls hexchanges label
  have hkept := Transition.invariant_run_history hkeeps ⟨rfl, fun i => rfl⟩ hfinds hrun
  intro i outcome hfinished
  simpa only [Kept, hfinished] using hkept.2 i

/-- A call asks nobody before it is over. -/
private def AsksLast (s : State α) : Prop :=
  ∀ i, (∀ outcome, s.calls i ≠ .finished outcome) → s.exchanges i = []

private theorem asksLast_step (h : AsksLast s) (hstep : Steps parameters s label t) :
    AsksLast t := by
  intro i hunfinished
  by_cases hi : label.call = some i
  · cases hstep with
    | registerAgentForUser | unregisterAgentForUser => cases hi
    | enter hcalls | hasAgentForUser hcalls hhas | agentForUser hcalls hagent =>
      cases hi
      exact h i fun outcome hfinished => by cases hcalls.symm.trans hfinished
    | hasNoAgentForUser | agentForUserThrows | authenticate =>
      cases hi
      exact absurd (Function.update_self ..) (hunfinished _)
  · obtain ⟨hcalls, hexchanges⟩ := hstep.frame hi
    rw [hcalls] at hunfinished
    exact hexchanges.trans (h i hunfinished)

/-- A call failed because the registry had no agent when it was looked up. -/
private def OutOfRange (s : State α) : Prop :=
  ∃ i, s.calls i = .finished (.error .outOfRange) ∧ s.exchanges i = []

private theorem outOfRange_lasts (h : OutOfRange s) (hstep : Steps parameters s label t) :
    OutOfRange t := by
  obtain ⟨i, hcalls, hexchanges⟩ := h
  have hother : label.call ≠ some i := by
    intro hi
    cases hstep with
    | registerAgentForUser | unregisterAgentForUser => cases hi
    | enter hj | hasAgentForUser hj | hasNoAgentForUser hj | agentForUser hj
    | agentForUserThrows hj | authenticate hj =>
      cases hi
      cases hcalls.symm.trans hj
  obtain ⟨hcalls', hexchanges'⟩ := hstep.frame hother
  exact ⟨i, hcalls'.trans hcalls, hexchanges'.trans hexchanges⟩

private theorem outOfRange_step (h : AsksLast s) (hfinds : ¬Finds parameters s label)
    (hstep : Steps parameters s label t) : OutOfRange t := by
  cases hstep with
  | @agentForUserThrows i hchecked hnone =>
    refine ⟨i, Function.update_self .., h i fun outcome hfinished => ?_⟩
    cases hchecked.symm.trans hfinished
  | agentForUser hchecked hagent => exact absurd (Option.isSome_of_eq_some hagent) hfinds
  | registerAgentForUser | unregisterAgentForUser | enter | hasAgentForUser | hasNoAgentForUser
  | authenticate => exact absurd trivial hfinds

/-- After a run every call that is over ended as it should, if and only if each of them that looked
its agent up found one. -/
theorem serves_iff {ls : List (Label α)}
    (hrun : Transition.run (step parameters) (start α) ls = some s) :
    Serves parameters ls s ↔
      Transition.Meets (step parameters) (Finds parameters) (start α) ls := by
  refine ⟨fun h => ?_, serves_run hrun⟩
  refine Transition.meets_of_unmarked
    (fun s label t (hs : AsksLast s) hstep => asksLast_step hs (steps_of_step hstep))
    (fun s label t hs hstep => outOfRange_lasts hs (steps_of_step hstep))
    (fun s label t hs hfinds hstep => outOfRange_step hs hfinds (steps_of_step hstep))
    (fun i _ => rfl) hrun ?_
  rintro ⟨i, hcalls, hexchanges⟩
  rcases h i _ hcalls with ⟨hdenied, -⟩ | ⟨agent, hasked, -⟩
  · cases hdenied
  · cases hexchanges.symm.trans hasked

/-- Requests of an application of the user 1000. -/
def askedByUser (_ : CallId) : RequestParameters := ⟨⟨⟨1000⟩, ⟨4242⟩, "com.example.app"⟩, ⟨0⟩, ""⟩

/-- The agent of the user is registered, replaced and unregistered while a call is made. -/
def replacedAgent : List (Label Nat) :=
  [.registerAgentForUser ⟨1000⟩ 1, .enter 0, .hasAgentForUser 0, .unregisterAgentForUser ⟨1000⟩,
    .registerAgentForUser ⟨1000⟩ 2, .agentForUser 0, .unregisterAgentForUser ⟨1000⟩,
    .authenticate 0 (.ok .granted)]

/-- A call that finds another agent than the one that was there when it checked. -/
theorem serves_iff_replaced :
    ∃ s, Transition.run (step askedByUser) (start Nat) replacedAgent = some s ∧
      Transition.Meets (step askedByUser) (Finds askedByUser) (start Nat) replacedAgent ∧
      Serves askedByUser replacedAgent s :=
  ⟨_, rfl, by decide, (serves_iff rfl).mpr (by decide)⟩

/-- The agent of the user is unregistered between the two questions of a call. -/
def unregisteredBetween : List (Label Nat) :=
  [.registerAgentForUser ⟨1000⟩ 1, .enter 0, .hasAgentForUser 0, .unregisterAgentForUser ⟨1000⟩,
    .agentForUser 0]

/-- A call fails with `std::out_of_range` if its agent is unregistered in between. -/
theorem not_serves_unregistered :
    ¬ ∀ (parameters : CallId → RequestParameters) (ls : List (Label Nat)) (s : State Nat),
      Transition.run (step parameters) (start Nat) ls = some s → Serves parameters ls s := by
  intro h
  rcases h askedByUser unregisteredBetween _ rfl 0 (.error .outOfRange) rfl with
    ⟨hdenied, -⟩ | ⟨agent, hasked, -⟩
  · cases hdenied
  · cases hasked

end TrustStore.Remote.Dbus.Stub
