import TrustStore.Mir.Stopped

/-!
# Descriptors for the prompt provider

The guard `Scope` closes the descriptor of a call however it ends,
`src/core/trust/mir/agent.cpp:242–257`, once it knows about it. Between Mir and the guard the
descriptor belongs to `new_fd_for_prompt_provider`, `src/core/trust/mir/agent.cpp:66–91`, which
throws if it cannot clear the flags of the descriptor, and forgets it.
-/

namespace TrustStore.Mir

open TrustStore.Base

/-- When the call is over, the descriptors that Mir handed out have been closed, each of them once,
and no others. -/
def Released (s : State) : Prop :=
  ∀ result, s.location = .finished result → s.closed = s.opened

/-- Every call of `::fcntl` succeeds. -/
def Cleared (labels : List Label) : Prop := ∀ errno, .fcntl (some errno) ∉ labels

/-- Who owns which descriptor at a location. -/
def Owned (labels : List Label) (s : State) : Prop :=
  match s.location with
  | .creating _ | .inspecting _ | .resolvingParent _ | .acquiring =>
    s.opened = [] ∧ s.closed = [] ∧ s.scopeFd = -1 ∧ Cleared labels
  | .clearing fd =>
    s.opened = [fd] ∧ s.closed = [] ∧ s.scopeFd = -1 ∧ fd ≠ -1 ∧ Cleared labels
  | .resolving | .executing _ | .storing | .waiting | .translating _ =>
    s.opened = [s.scopeFd] ∧ s.closed = [] ∧ s.scopeFd ≠ -1 ∧ Cleared labels
  | .finished _ => s.closed = s.opened ↔ Cleared labels

variable {translator : WaitResult → Except Exception Answer} {parameters : RequestParameters}
  {labels : List Label} {s t : State} {label : Label}

private theorem cleared_concat :
    Cleared (labels ++ [label]) ↔ Cleared labels ∧ ∀ errno, label ≠ .fcntl (some errno) := by
  simp only [Cleared, List.mem_append, List.mem_singleton, not_or, forall_and, eq_comm, ne_eq]

/-- Before a descriptor is handed out there is none to close. -/
private theorem owned_finish_early {result : Except Exception Answer} (hopened : s.opened = [])
    (hclosed : s.closed = []) (hfd : s.scopeFd = -1) (hcleared : Cleared labels) :
    Owned labels (s.finish result) := by
  simp [Owned, State.finish, hfd, hopened, hclosed, hcleared]

/-- The guard closes the descriptor that it knows about. -/
private theorem owned_finish_late {result : Except Exception Answer}
    (hopened : s.opened = [s.scopeFd]) (hclosed : s.closed = []) (hfd : s.scopeFd ≠ -1)
    (hcleared : Cleared labels) : Owned labels (s.finish result) := by
  simp [Owned, State.finish, hfd, hopened, hclosed, hcleared]

private theorem owned_sameCall (h : Owned labels s) (hsame : SameCall s t)
    (houtside : label.outside = true) : Owned (labels ++ [label]) t := by
  have hcleared : Cleared (labels ++ [label]) ↔ Cleared labels := by
    rw [cleared_concat, and_iff_left]
    rintro errno rfl
    cases houtside
  unfold Owned at h ⊢
  rw [hsame.location, hsame.opened, hsame.closed, hsame.scopeFd, hcleared]
  exact h

/-- Every step of a call passes its descriptor on, or closes it, unless the flags of the descriptor
cannot be cleared. -/
theorem owned_step (h : Owned labels s) (hstep : Steps translator parameters s label t) :
    Owned (labels ++ [label]) t := by
  rcases hstep.own_or_same with hown | ⟨houtside, hsame⟩
  · cases hown with
    | createPromptSessionSync hlocation | created hlocation | noSession hlocation
    | parentPidResolver hlocation =>
      simp only [Owned, hlocation] at h
      obtain ⟨hopened, hclosed, hfd, hcleared⟩ := h
      exact ⟨hopened, hclosed, hfd, cleared_concat.mpr ⟨hcleared, by simp⟩⟩
    | createPromptSessionSyncThrows hlocation | notCreated hlocation | noParent hlocation
    | parentPidResolverThrows hlocation | newFdInvalid hlocation =>
      simp only [Owned, hlocation] at h
      obtain ⟨hopened, hclosed, hfd, hcleared⟩ := h
      exact owned_finish_early hopened hclosed hfd (cleared_concat.mpr ⟨hcleared, by simp⟩)
    | newFd hlocation hfd =>
      simp only [Owned, hlocation] at h
      obtain ⟨hopened, hclosed, hscope, hcleared⟩ := h
      exact ⟨by simp [hopened], hclosed, hscope, hfd, cleared_concat.mpr ⟨hcleared, by simp⟩⟩
    | fcntl hlocation =>
      simp only [Owned, hlocation] at h
      obtain ⟨hopened, hclosed, -, hfd, hcleared⟩ := h
      exact ⟨hopened, hclosed, hfd, cleared_concat.mpr ⟨hcleared, by simp⟩⟩
    | fcntlFails hlocation =>
      simp only [Owned, hlocation] at h
      obtain ⟨hopened, hclosed, hscope, -, -⟩ := h
      simp [Owned, State.finish, hscope, hopened, hclosed, cleared_concat]
    | resolve hlocation | execPromptProvider hlocation | store hlocation | waitFor hlocation =>
      simp only [Owned, hlocation] at h
      obtain ⟨hopened, hclosed, hfd, hcleared⟩ := h
      exact ⟨hopened, hclosed, hfd, cleared_concat.mpr ⟨hcleared, by simp⟩⟩
    | resolveThrows hlocation | execPromptProviderThrows hlocation | waitFails hlocation
    | translate hlocation =>
      simp only [Owned, hlocation] at h
      obtain ⟨hopened, hclosed, hfd, hcleared⟩ := h
      exact owned_finish_late hopened hclosed hfd (cleared_concat.mpr ⟨hcleared, by simp⟩)
  · exact owned_sameCall h hsame houtside

/-- A call owns nothing at its start. -/
theorem owned_start : Owned [] (start parameters) := ⟨rfl, rfl, rfl, by simp [Cleared]⟩

/-- A call that is over has closed what Mir handed out to it if and only if the flags of the
descriptor could be cleared. -/
theorem released_iff {result : Except Exception Answer}
    (hrun : Transition.run (step translator parameters) (start parameters) labels = some t)
    (hfinished : t.location = .finished result) : Released t ↔ Cleared labels := by
  have ht : Owned labels t := Transition.invariant_run_history (C := fun _ _ => True)
    (fun before s label u hs _ hstep => owned_step hs (steps_of_step hstep)) owned_start
    (Transition.meets_true _ _) hrun
  rw [Owned, hfinished] at ht
  exact ⟨fun h => ht.mp (h result hfinished), fun h _ _ => ht.mpr h⟩

/-- The descriptor of a prompt that was granted is closed. -/
theorem released_iff_stoppedAfterwards : ∃ t,
    Transition.run (step translatorOnlyAcceptingExitStatusSuccess request) (start request)
      stoppedAfterwards = some t ∧ t.location = .finished (.ok .granted) ∧ t.opened = [3] ∧
      Released t := by
  refine ⟨_, rfl, rfl, rfl, ?_⟩
  have hrun : Transition.run (step translatorOnlyAcceptingExitStatusSuccess request)
      (start request) stoppedAfterwards = some _ := rfl
  exact (released_iff hrun rfl).mpr (by simp [Cleared, stoppedAfterwards])

/-- The flags of the descriptor cannot be cleared. -/
def notCleared : List Label :=
  [.createPromptSessionSync (.ok ""), .errorMessage, .newFd 3, .fcntl (some 9)]

/-- A descriptor is not closed if its flags cannot be cleared. -/
theorem not_released_notCleared : ¬ ∀ (labels : List Label) (t : State),
    Transition.run (step translatorOnlyAcceptingExitStatusSuccess request) (start request)
      labels = some t → Released t := by
  intro h
  have hclosed := h notCleared _ rfl _ rfl
  exact absurd hclosed (by decide)

end TrustStore.Mir
