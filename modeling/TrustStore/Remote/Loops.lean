import TrustStore.Remote.Posix

/-!
# Loops of asynchronous operations

The stub accepts one connection after the other, and a skeleton reads one request after the
other: each handler of a completion starts the next operation. An exception that leaves a handler
is caught by the worker that runs it, `src/core/trust/runtime.cpp:28–46`, and ends the loop: the
process goes on, but nobody listens. Here it is written down when that happens.
-/

namespace TrustStore.Remote.Posix

open TrustStore.Base

/-- The number of reads that the skeleton has outstanding. -/
def Phase.reads : Phase → Nat
  | .reading => 1
  | .processing _ | .writing _ | .idle => 0

/-- The skeleton is not in its handler `Skeleton::on_read_finished`;
`src/core/trust/remote/posix.cpp:292–309`. -/
def Phase.BetweenHandlers : Phase → Prop
  | .reading | .idle => True
  | .processing _ | .writing _ => False

/-- Unless the accept was aborted, exactly one is outstanding. Between two handlers of a skeleton,
unless its read was aborted, exactly one is outstanding. -/
structure Armed (labels : List Label) (s : State) : Prop where
  accept : (∀ peer, .onNewSession (some .operationAborted) peer ∉ labels) → s.accepts = 1
  read : ∀ k, k < s.accepted → .onReadFinished k (some .operationAborted) ∉ labels →
    (s.sessions k).skeleton.BetweenHandlers → (s.sessions k).skeleton.reads = 1

/-- What `Skeleton::process_incoming_request` calls returns: the start time is that of the request
if it is verified, and neither the application id resolver nor the agent throws. -/
def Skeleton.Served (config : Skeleton.Configuration PUnit) (request : Request) : Prop :=
  (config.verifyProcessStartTime = true →
    ((config.startTimeResolver request.appPid).exec ⟨⟩).1 = .ok request.appStartTime) ∧
  ∃ appId, ((config.appIdResolver request.appPid).exec ⟨⟩).1 = .ok appId ∧
    ∃ answer, ((config.impl
      { application :=
          { uid := request.appUid
            pid := request.appPid
            id := appId }
        feature := request.feature
        description := config.descriptionFormat }).exec ⟨⟩).1 = .ok answer

/-- No handler is left by an exception: the credentials resolver returns, the request is served,
and the answer is written. -/
def Undisturbed (s : State) : Label → Prop
  | .onNewSession none (.error _) => False
  | .processIncomingRequest k config =>
    match (s.sessions k).skeleton with
    | .processing request => Skeleton.Served config request.value
    | _ => True
  | .writeAnswer _ (some _) => False
  | _ => True

variable {parameters : CallId → RequestParameters} {labels : List Label} {s t : State}
  {label : Label}

/-! ### Requests that are served -/

private theorem returns_bind {α β : Type} {m : Action PUnit α} {f : α → Action PUnit β} :
    (∃ b, ((m >>= f).exec ⟨⟩).1 = .ok b) ↔
      ∃ a, (m.exec ⟨⟩).1 = .ok a ∧ ∃ b, ((f a).exec ⟨⟩).1 = .ok b := by
  rw [Fallible.exec_bind]
  rcases m.exec ⟨⟩ with ⟨_ | a, t⟩
  · simp
  · simp

/-- A request is answered if and only if what is called for it returns. -/
theorem Skeleton.served_iff {config : Skeleton.Configuration PUnit} {request : Request} :
    Skeleton.Served config request ↔
      ∃ answer, ((Skeleton.processIncomingRequest config request).exec ⟨⟩).1 = .ok answer := by
  rw [Skeleton.processIncomingRequest, Skeleton.Served, ← returns_bind]
  cases config.verifyProcessStartTime with
  | false => simp
  | true =>
    simp only [if_true, forall_const]
    rw [returns_bind (m := config.startTimeResolver request.appPid)]
    constructor
    · rintro ⟨htime, hserved⟩
      refine ⟨_, htime, ?_⟩
      simpa using hserved
    · rintro ⟨time, htime, hserved⟩
      by_cases heq : time = request.appStartTime
      · rw [heq] at htime hserved
        exact ⟨htime, by simpa using hserved⟩
      · simp [heq] at hserved

/-! ### What a step does to the loops -/

/-- An accept or a read that was aborted. -/
def Label.Aborts : Label → Prop
  | .onNewSession (some .operationAborted) _ => True
  | .onReadFinished _ (some .operationAborted) => True
  | _ => False

/-- A step leaves the loops alone, moves a skeleton to another phase, or ends an accept. The
skeleton stops only if its read is aborted or the step is disturbed. -/
inductive Moves (s : State) : Label → State → Prop
  | same {label : Label} {t : State} (haccepts : t.accepts = s.accepts)
      (haccepted : t.accepted = s.accepted)
      (hskeletons : ∀ k, (t.sessions k).skeleton = (s.sessions k).skeleton)
      (haborts : ¬label.Aborts) (hundisturbed : Undisturbed s label) : Moves s label t
  | skeleton {label : Label} {t : State} (k : SessionId) (session : Session)
      (haccepts : t.accepts = s.accepts)
      (haccepted : t.accepted = s.accepted)
      (hsessions : t.sessions = Function.update s.sessions k session)
      (hk : (s.sessions k).skeleton = .reading → k < s.accepted)
      (hidle : (s.sessions k).skeleton ≠ .idle)
      (haborts : label.Aborts → label = .onReadFinished k (some .operationAborted) ∧
        session.skeleton = .idle)
      (hundisturbed : Undisturbed s label ↔ session.skeleton ≠ .idle ∨ label.Aborts) :
      Moves s label t
  | accept {ec peer} (haccepts : s.accepts ≠ 0) :
      Moves s (.onNewSession ec peer) (s.onNewSession ec peer)

private theorem moves_onSession {label : Label} {k : SessionId} {session : Session}
    (hsessions : t.sessions = Function.update s.sessions k session)
    (hskeleton : session.skeleton = (s.sessions k).skeleton) (haccepts : t.accepts = s.accepts)
    (haccepted : t.accepted = s.accepted) (haborts : ¬label.Aborts)
    (hundisturbed : Undisturbed s label) : Moves s label t := by
  refine .same haccepts haccepted (fun j => ?_) haborts hundisturbed
  rw [hsessions]
  by_cases hjk : j = k
  · subst hjk
    rw [Function.update_self, hskeleton]
  · rw [Function.update_of_ne hjk]

private theorem moves_handleError {label : Label} (i : CallId) (ec : Int) (uid : Uid)
    (haborts : ¬label.Aborts) (hundisturbed : Undisturbed s label) :
    Moves s label (s.handleErrorFromSocketOperationForUid i ec uid) := by
  rw [State.handleErrorFromSocketOperationForUid]
  split <;> exact .same rfl rfl (fun _ => rfl) haborts hundisturbed

/-- Every step does one of these. -/
theorem moves_of_steps (h : Steps parameters s label t) : Moves s label t := by
  cases h with
  | startTimeBeforeQuery => exact .same rfl rfl (fun _ => rfl) id trivial
  | startTimeBeforeQueryThrows => exact .same rfl rfl (fun _ => rfl) id trivial
  | resolveSession => exact .same rfl rfl (fun _ => rfl) id trivial
  | resolveSessionThrows => exact .same rfl rfl (fun _ => rfl) id trivial
  | write => exact moves_onSession rfl rfl rfl rfl id trivial
  | writeFails => exact moves_handleError _ _ _ id trivial
  | read => exact moves_onSession rfl rfl rfl rfl id trivial
  | readFails => exact moves_handleError _ _ _ id trivial
  | startTimeAfterQuery => exact .same rfl rfl (fun _ => rfl) id trivial
  | startTimeAfterQueryDiffers => exact .same rfl rfl (fun _ => rfl) id trivial
  | startTimeAfterQueryThrows => exact .same rfl rfl (fun _ => rfl) id trivial
  | onNewSession haccepts => exact .accept haccepts
  | onReadFinished hk hskeleton =>
    refine .skeleton _ _ rfl rfl rfl (fun _ => hk) ?_ ?_ ?_
    · simp [hskeleton]
    · simp [Label.Aborts]
    · simp [Undisturbed]
  | onReadAborted hk hskeleton =>
    refine .skeleton _ _ rfl rfl rfl (fun _ => hk) ?_ ?_ ?_
    · simp [hskeleton]
    · simp
    · simp [Undisturbed, Label.Aborts]
  | onReadFails => exact .same rfl rfl (fun _ => rfl) id trivial
  | processIncomingRequest hskeleton hanswer =>
    refine .skeleton _ _ rfl rfl rfl ?_ ?_ ?_ ?_
    · simp [hskeleton]
    · simp [hskeleton]
    · simp [Label.Aborts]
    · simp only [Undisturbed, hskeleton]
      simp [Skeleton.served_iff, hanswer]
  | processIncomingRequestThrows hskeleton hthrows =>
    refine .skeleton _ _ rfl rfl rfl ?_ ?_ ?_ ?_
    · simp [hskeleton]
    · simp [hskeleton]
    · simp [Label.Aborts]
    · simp only [Undisturbed, hskeleton]
      simp [Skeleton.served_iff, hthrows, Label.Aborts]
  | writeAnswer hskeleton =>
    refine .skeleton _ _ rfl rfl rfl ?_ ?_ ?_ ?_
    · simp [hskeleton]
    · simp [hskeleton]
    · simp [Label.Aborts]
    · simp [Undisturbed]
  | writeAnswerFails hskeleton =>
    refine .skeleton _ _ rfl rfl rfl ?_ ?_ ?_ ?_
    · simp [hskeleton]
    · simp [hskeleton]
    · simp [Label.Aborts]
    · simp [Undisturbed, Label.Aborts]

/-! ### Operations that were aborted -/

/-- An operation that was aborted is not started again, and the skeletons of sessions to come are
new. -/
structure Stopped (labels : List Label) (s : State) : Prop where
  accept : ∀ peer, .onNewSession (some .operationAborted) peer ∈ labels → s.accepts = 0
  read : ∀ k, .onReadFinished k (some .operationAborted) ∈ labels →
    k < s.accepted ∧ (s.sessions k).skeleton = .idle
  fresh : ∀ k, s.accepted ≤ k → (s.sessions k).skeleton = .reading
  accepts : s.accepts ≤ 1

private theorem Stopped.lt_accepted (h : Stopped labels s) {k : SessionId}
    (hk : (s.sessions k).skeleton = .reading → k < s.accepted) : k < s.accepted := by
  rcases Nat.lt_or_ge k s.accepted with hlt | hge
  · exact hlt
  · exact hk (h.fresh k hge)

private theorem stopped_start : Stopped [] start where
  accept _ h := absurd h List.not_mem_nil
  read _ h := absurd h List.not_mem_nil
  fresh _ _ := rfl
  accepts := Nat.le_refl 1

/-- An aborted operation is among the labels before the last one, unless the last one aborts. -/
private theorem mem_of_not_aborts {other : Label} (h : ¬label.Aborts)
    (hother : other ∈ labels ++ [label]) (haborts : other.Aborts) : other ∈ labels := by
  rcases List.mem_append.mp hother with hother | hother
  · exact hother
  · rw [← List.mem_singleton.mp hother] at h
    exact absurd haborts h

/-- Sessions up to the last accepted one are as they were when another one is accepted. -/
private theorem sessions_onNewSession {k : SessionId} (hk : k ≠ s.accepted)
    (ec : Option AsyncError) (peer : Except Exception Uid) :
    (s.onNewSession ec peer).sessions k = s.sessions k := by
  cases ec with
  | some e => cases e <;> rfl
  | none =>
    cases peer with
    | error e => rfl
    | ok uid => exact Function.update_of_ne hk _ _

private theorem accepted_onNewSession (s : State) (ec : Option AsyncError)
    (peer : Except Exception Uid) : s.accepted ≤ (s.onNewSession ec peer).accepted := by
  cases ec with
  | some e => cases e <;> exact Nat.le_refl _
  | none =>
    cases peer with
    | error e => exact Nat.le_refl _
    | ok uid => exact Nat.le_succ _

private theorem accepts_onNewSession (s : State) (ec : Option AsyncError)
    (peer : Except Exception Uid) : (s.onNewSession ec peer).accepts ≤ s.accepts := by
  cases ec with
  | some e =>
    cases e with
    | operationAborted => exact Nat.sub_le _ _
    | other => exact Nat.le_refl _
  | none =>
    cases peer with
    | error e => exact Nat.sub_le _ _
    | ok uid => exact Nat.le_refl _

private theorem skeleton_onNewSession (h : Stopped labels s) (ec : Option AsyncError)
    (peer : Except Exception Uid) (k : SessionId) :
    ((s.onNewSession ec peer).sessions k).skeleton = (s.sessions k).skeleton := by
  by_cases hk : k = s.accepted
  · subst hk
    rw [h.fresh _ (Nat.le_refl _)]
    cases ec with
    | some e => cases e <;> exact h.fresh _ (Nat.le_refl _)
    | none =>
      cases peer with
      | error e => exact h.fresh _ (Nat.le_refl _)
      | ok uid =>
        have hnew : (s.onNewSession none (.ok uid)).sessions s.accepted = Session.new uid :=
          Function.update_self _ _ _
        rw [hnew, Session.new]
  · rw [sessions_onNewSession hk]

/-- Operations that were aborted remain so. -/
theorem stopped_step (h : Stopped labels s) (hmoves : Moves s label t) :
    Stopped (labels ++ [label]) t := by
  cases hmoves with
  | same haccepts haccepted hskeletons haborts =>
    refine ⟨?_, ?_, ?_, haccepts ▸ h.accepts⟩
    · intro peer hpeer
      rw [haccepts]
      exact h.accept peer (mem_of_not_aborts haborts hpeer trivial)
    · intro k hk
      rw [haccepted, hskeletons]
      exact h.read k (mem_of_not_aborts haborts hk trivial)
    · intro k hk
      rw [hskeletons]
      exact h.fresh k (haccepted ▸ hk)
  | skeleton k session haccepts haccepted hsessions hk hidle haborts =>
    have hlt := h.lt_accepted hk
    refine ⟨?_, ?_, ?_, haccepts ▸ h.accepts⟩
    · intro peer hpeer
      rw [haccepts]
      rcases List.mem_append.mp hpeer with hpeer | hpeer
      · exact h.accept peer hpeer
      · have hlabel := List.mem_singleton.mp hpeer
        subst hlabel
        cases (haborts trivial).1
    · intro j hj
      rw [haccepted, hsessions]
      rcases List.mem_append.mp hj with hj | hj
      · obtain ⟨hjlt, hj⟩ := h.read j hj
        have hjk : j ≠ k := by
          rintro rfl
          exact hidle hj
        rw [Function.update_of_ne hjk]
        exact ⟨hjlt, hj⟩
      · have hlabel := List.mem_singleton.mp hj
        subst hlabel
        obtain ⟨hjk, hsession⟩ := haborts trivial
        cases hjk
        rw [Function.update_self]
        exact ⟨hlt, hsession⟩
    · intro j hj
      rw [haccepted] at hj
      rw [hsessions, Function.update_of_ne (Nat.ne_of_gt (Nat.lt_of_lt_of_le hlt hj))]
      exact h.fresh j hj
  | @accept ec peer haccepts =>
    refine ⟨?_, ?_, ?_, Nat.le_trans (accepts_onNewSession s ec peer) h.accepts⟩
    · intro peer' hpeer'
      rcases List.mem_append.mp hpeer' with hpeer' | hpeer'
      · exact absurd (h.accept peer' hpeer') haccepts
      · cases List.mem_singleton.mp hpeer'
        have hle := h.accepts
        simp only [State.onNewSession]
        omega
    · intro k hk
      rcases List.mem_append.mp hk with hk | hk
      · obtain ⟨hlt, hskeleton⟩ := h.read k hk
        rw [skeleton_onNewSession h]
        exact ⟨Nat.lt_of_lt_of_le hlt (accepted_onNewSession s ec peer), hskeleton⟩
      · cases List.mem_singleton.mp hk
    · intro k hk
      rw [skeleton_onNewSession h]
      exact h.fresh k (Nat.le_trans (accepted_onNewSession s ec peer) hk)

/-! ### Loops that stay armed -/

private theorem armed_start : Armed [] start where
  accept _ := rfl
  read _ hk := absurd hk (Nat.not_lt_zero _)

private theorem Phase.reads_of_ne_idle {phase : Phase} (h : phase.BetweenHandlers)
    (hne : phase ≠ .idle) : phase.reads = 1 := by
  cases phase with
  | reading => rfl
  | idle => exact absurd rfl hne
  | processing request => exact h.elim
  | writing answer => exact h.elim

/-- The accept loop goes on after an accept if and only if the credentials resolver returned. -/
private theorem armed_onNewSession_iff (h : Armed labels s) (hstopped : Stopped labels s)
    {ec : Option AsyncError} {peer : Except Exception Uid} (haccepts : s.accepts ≠ 0) :
    Armed (labels ++ [.onNewSession ec peer]) (s.onNewSession ec peer) ↔
      Undisturbed s (.onNewSession ec peer) := by
  have hread : ∀ k, k < (s.onNewSession ec peer).accepted →
      .onReadFinished k (some .operationAborted) ∉ labels ++ [.onNewSession ec peer] →
      ((s.onNewSession ec peer).sessions k).skeleton.BetweenHandlers →
      ((s.onNewSession ec peer).sessions k).skeleton.reads = 1 := by
    intro k _ hnever
    rw [skeleton_onNewSession hstopped]
    rcases Nat.lt_or_ge k s.accepted with hk | hk
    · exact h.read k hk fun hmem => hnever (List.mem_append_left _ hmem)
    · rw [hstopped.fresh k hk]
      exact fun _ => rfl
  have hrunning : ∀ peer', .onNewSession (some .operationAborted) peer' ∉ labels :=
    fun peer' hmem => haccepts (hstopped.accept peer' hmem)
  have hone := h.accept hrunning
  cases ec with
  | some e =>
    refine iff_of_true ⟨fun hnever => ?_, hread⟩ trivial
    cases e with
    | operationAborted => exact absurd (by simp) (hnever peer)
    | other => exact hone
  | none =>
    cases peer with
    | error e =>
      refine iff_of_false (fun ht => ?_) id
      have htwo := ht.accept fun peer' hmem => by
        rcases List.mem_append.mp hmem with hmem | hmem
        · exact hrunning peer' hmem
        · cases List.mem_singleton.mp hmem
      simp only [State.onNewSession] at htwo
      omega
    | ok uid => exact iff_of_true ⟨fun _ => hone, hread⟩ trivial

/-- Loops that are armed still are after a step if and only if the step is not disturbed. -/
theorem armed_moves_iff (h : Armed labels s) (hstopped : Stopped labels s)
    (hmoves : Moves s label t) : Armed (labels ++ [label]) t ↔ Undisturbed s label := by
  cases hmoves with
  | same haccepts haccepted hskeletons haborts hundisturbed =>
    refine iff_of_true ⟨?_, ?_⟩ hundisturbed
    · intro hnever
      rw [haccepts]
      exact h.accept fun peer hpeer => hnever peer (List.mem_append_left _ hpeer)
    · intro k hk hnever
      rw [hskeletons]
      exact h.read k (haccepted ▸ hk) fun hmem => hnever (List.mem_append_left _ hmem)
  | skeleton k session haccepts haccepted hsessions hk hidle haborts hundisturbed =>
    rw [hundisturbed]
    constructor
    · intro ht
      by_contra hnot
      obtain ⟨hsession, hlabel⟩ := not_or.mp hnot
      have hlt := hstopped.lt_accepted hk
      have hidle' : (t.sessions k).skeleton = .idle := by
        rw [hsessions, Function.update_self]
        exact not_not.mp hsession
      have hread := ht.read k (haccepted.symm ▸ hlt) fun hmem =>
        hidle (hstopped.read k (mem_of_not_aborts hlabel hmem trivial)).2
      rw [hidle'] at hread
      exact absurd (hread trivial) (by decide)
    · intro hsession
      constructor
      · intro hnever
        rw [haccepts]
        exact h.accept fun peer hpeer => hnever peer (List.mem_append_left _ hpeer)
      · intro j hj hnever
        rw [hsessions]
        by_cases hjk : j = k
        · subst hjk
          rw [Function.update_self]
          intro hbetween
          rcases hsession with hsession | hlabel
          · exact Phase.reads_of_ne_idle hbetween hsession
          · rw [(haborts hlabel).1] at hnever
            exact absurd (List.mem_append_right _ (List.mem_singleton_self _)) hnever
        · rw [Function.update_of_ne hjk]
          exact h.read j (haccepted ▸ hj) fun hmem => hnever (List.mem_append_left _ hmem)
  | accept haccepts => exact armed_onNewSession_iff h hstopped haccepts

/-- In every run whose steps are not disturbed the loops stay armed, however connections, requests,
failing operations and the calls of the stub interleave. -/
theorem armed_run (hundisturbed : Transition.Meets (step parameters) Undisturbed start labels)
    (hrun : Transition.run (step parameters) start labels = some t) : Armed labels t := by
  have hstep : ∀ before s label t, Armed before s ∧ Stopped before s → Undisturbed s label →
      step parameters s label = some t →
        Armed (before ++ [label]) t ∧ Stopped (before ++ [label]) t := by
    intro before s label t hs hlabel hstep
    have hmoves := moves_of_steps (steps_of_step hstep)
    exact ⟨(armed_moves_iff hs.1 hs.2 hmoves).mpr hlabel, stopped_step hs.2 hmoves⟩
  exact (Transition.invariant_run_history hstep ⟨armed_start, stopped_start⟩ hundisturbed hrun).1

/-- A caller of the user 1000. -/
def caller (_ : CallId) : RequestParameters := ⟨⟨⟨1000⟩, ⟨42⟩, ""⟩, ⟨1⟩, ""⟩

/-- A skeleton whose application id resolver returns, or throws. -/
def resolving (appId : Except Exception String) : Skeleton.Configuration PUnit where
  impl _ := return .granted
  startTimeResolver _ := return 7
  appIdResolver _ := ofExcept appId
  descriptionFormat := ""
  verifyProcessStartTime := true

/-- A request reaches its skeleton. -/
def received : List Label :=
  [.onNewSession none (.ok ⟨1000⟩), .startTimeBeforeQuery 0 (.ok 7), .resolveSession 0,
    .write 0 none, .onReadFinished 0 none]

/-- The request is answered. -/
def served : List Label :=
  received ++ [.processIncomingRequest 0 (resolving (.ok "app")), .writeAnswer 0 none]

/-- The process of the caller is gone. -/
def notResolved : List Label :=
  received ++ [.processIncomingRequest 0 (resolving (.error (.systemError 3)))]

/-- The credentials of a peer are not found. -/
def refused : List Label := [.onNewSession none (.error (.systemError 107))]

/-- After a request that was answered the skeleton reads. -/
theorem armed_served : ∃ t, Transition.run (step caller) start served = some t ∧
    (t.sessions 0).skeleton.reads = 1 ∧ Armed served t := by
  refine ⟨_, rfl, rfl, ?_⟩
  have hrun : Transition.run (step caller) start served = some _ := rfl
  refine armed_run ?_ hrun
  have hserved : Skeleton.Served (resolving (.ok "app")) ⟨⟨1000⟩, ⟨42⟩, ⟨1⟩, 7⟩ :=
    ⟨fun _ => rfl, "app", rfl, .granted, rfl⟩
  exact .cons trivial rfl <| .cons trivial rfl <| .cons trivial rfl <| .cons trivial rfl <|
    .cons trivial rfl <| .cons hserved rfl <| .cons trivial rfl trivial

/-- After a request of a process that is gone the skeleton does not read, and after a connection
of an unknown peer the stub does not accept. -/
theorem not_armed_throws :
    (∃ t, Transition.run (step caller) start notResolved = some t ∧ t.accepted = 1 ∧
      (t.sessions 0).skeleton.BetweenHandlers ∧ (t.sessions 0).skeleton.reads = 0 ∧
      ¬Armed notResolved t) ∧
    ∃ t, Transition.run (step caller) start refused = some t ∧ t.accepts = 0 ∧
      ¬Armed refused t := by
  refine ⟨⟨_, rfl, rfl, trivial, rfl, ?_⟩, _, rfl, rfl, ?_⟩
  · intro h
    have hread := h.read 0 Nat.zero_lt_one (by simp [notResolved, received]) trivial
    exact absurd hread (by decide)
  · intro h
    exact absurd (h.accept (by simp [refused])) (by decide)

end TrustStore.Remote.Posix
