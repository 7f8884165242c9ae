import TrustStore.Remote.Posix

/-!
# Answers that reach the wrong call

The wire format names no call: which answer a call to `Stub::send` reads depends on the order
in which the calls of a session read. Nothing keeps that order, although every session has a
lock for it. Calls that read in the order in which they wrote get their own answers.
-/

namespace TrustStore.Remote.Posix

open TrustStore.Base

/-- Every call that returned normally returned the answer that the skeleton computed for its
own request. -/
def OwnAnswers (s : State) : Prop :=
  ∀ i answer, s.calls i = .finished (.ok answer) → s.fates i = .computed answer

/-- A call that reads an answer is the one whose request is the oldest in its session without
an answer read. -/
def InOrder (s : State) : Label → Prop
  | .read i none =>
    match s.calls i with
    | .written k _ => (s.sessions k).outstanding.head? = some i
    | _ => True
  | _ => True

instance (s : State) : (label : Label) → Decidable (InOrder s label)
  | .read i none =>
    match h : s.calls i with
    | .written k _ => decidable_of_iff ((s.sessions k).outstanding.head? = some i)
        (by simp [InOrder, h])
    | .entered | .timed _ | .resolved _ _ | .answered _ _ | .finished _ =>
      .isTrue (by simp [InOrder, h])
  | .read _ (some _) | .startTimeBeforeQuery _ _ | .resolveSession _ | .write _ _
  | .startTimeAfterQuery _ _ | .onNewSession _ _ | .onReadFinished _ _
  | .processIncomingRequest _ _ | .writeAnswer _ _ => .isTrue trivial

/-- The calls that a session has to answer, in order: the answers in the socket, the request
that the skeleton has at hand, and the requests in the socket. An idle skeleton has lost its
request, and answers no more. -/
def Session.Awaited (session : Session) : Prop :=
  let answered := session.answers.map Tagged.call
  let queued := session.requests.map Tagged.call
  match session.skeleton with
  | .reading => session.outstanding = answered ++ queued
  | .processing request => session.outstanding = answered ++ request.call :: queued
  | .writing answer => session.outstanding = answered ++ answer.call :: queued
  | .idle => answered <+: session.outstanding

/-- What is on its way in a session is what the calls believe it to be. -/
structure Session.Tracked (fates : CallId → Fate) (k : SessionId) (session : Session) : Prop where
  nodup : (session.requests.map Tagged.call).Nodup
  queued : ∀ request ∈ session.requests, fates request.call = .queued k
  processing : ∀ request, session.skeleton = .processing request →
    fates request.call = .processing k
  writing : ∀ answer, session.skeleton = .writing answer →
    fates answer.call = .computed answer.value
  answers : ∀ answer ∈ session.answers, fates answer.call = .computed answer.value
  awaited : session.Awaited

/-- The call has not written its request yet. -/
def Progress.Unsent : Progress → Prop
  | .entered | .timed _ | .resolved _ _ => True
  | .written _ _ | .answered _ _ | .finished _ => False

/-- The call has read an answer that it returns, or will return if at all. -/
def Progress.Holds (progress : Progress) (answer : Answer) : Prop :=
  match progress with
  | .answered answer' _ => answer' = answer
  | .finished (.ok answer') => answer' = answer
  | .entered | .timed _ | .resolved _ _ | .written _ _ | .finished (.error _) => False

/-- Every session is tracked, and every answer read belongs to the call that read it. -/
structure Ordered (s : State) : Prop where
  tracked : ∀ k, (s.sessions k).Tracked s.fates k
  unsent : ∀ i, (s.calls i).Unsent → s.fates i = .unsent
  held : ∀ i answer, (s.calls i).Holds answer → s.fates i = .computed answer

variable {parameters : CallId → RequestParameters}

/-! ### Frames -/

/-- The request of a call that is not in a session comes further without the session. -/
private theorem tracked_update {fates : CallId → Fate} {k : SessionId} {session : Session}
    (h : session.Tracked fates k) {i : CallId} (hqueued : fates i ≠ .queued k)
    (hprocessing : fates i ≠ .processing k) (hcomputed : ∀ answer, fates i ≠ .computed answer)
    (fate : Fate) : session.Tracked (Function.update fates i fate) k where
  nodup := h.nodup
  queued request hrequest := by
    have hfate := h.queued request hrequest
    have hne : request.call ≠ i := fun heq => hqueued (heq ▸ hfate)
    rw [Function.update_of_ne hne, hfate]
  processing request hrequest := by
    have hfate := h.processing request hrequest
    have hne : request.call ≠ i := fun heq => hprocessing (heq ▸ hfate)
    rw [Function.update_of_ne hne, hfate]
  writing answer hanswer := by
    have hfate := h.writing answer hanswer
    have hne : answer.call ≠ i := fun heq => hcomputed answer.value (heq ▸ hfate)
    rw [Function.update_of_ne hne, hfate]
  answers answer hanswer := by
    have hfate := h.answers answer hanswer
    have hne : answer.call ≠ i := fun heq => hcomputed answer.value (heq ▸ hfate)
    rw [Function.update_of_ne hne, hfate]
  awaited := h.awaited

private theorem tracked_new (fates : CallId → Fate) (k : SessionId) (peer : Uid) :
    (Session.new peer).Tracked fates k where
  nodup := List.nodup_nil
  queued request hrequest := absurd hrequest List.not_mem_nil
  processing request hrequest := by cases hrequest
  writing answer hanswer := by cases hanswer
  answers answer hanswer := absurd hanswer List.not_mem_nil
  awaited := rfl

/-- A call that neither writes nor reads goes on. -/
private theorem ordered_goto {s : State} (h : Ordered s) {i : CallId} {progress : Progress}
    (hunsent : progress.Unsent → (s.calls i).Unsent)
    (hheld : ∀ answer, progress.Holds answer → (s.calls i).Holds answer) :
    Ordered (s.goto i progress) where
  tracked := h.tracked
  unsent j hj := by
    rw [State.goto_calls] at hj
    by_cases hji : j = i
    · subst hji
      rw [Function.update_self] at hj
      exact h.unsent j (hunsent hj)
    · rw [Function.update_of_ne hji] at hj
      exact h.unsent j hj
  held j answer hj := by
    rw [State.goto_calls] at hj
    by_cases hji : j = i
    · subst hji
      rw [Function.update_self] at hj
      exact h.held j answer (hheld answer hj)
    · rw [Function.update_of_ne hji] at hj
      exact h.held j answer hj

/-- A call that ends with an exception. -/
private theorem ordered_error {s : State} (h : Ordered s) (i : CallId) (e : Exception) :
    Ordered (s.goto i (.finished (.error e))) :=
  ordered_goto h (fun hunsent => hunsent.elim) (fun _ hholds => hholds.elim)

private theorem ordered_handleError {s : State} (h : Ordered s) (i : CallId) (ec : Int)
    (uid : Uid) : Ordered (s.handleErrorFromSocketOperationForUid i ec uid) := by
  rw [State.handleErrorFromSocketOperationForUid]
  apply ordered_error
  split
  · exact ⟨h.tracked, h.unsent, h.held⟩
  · exact h

/-- A session changes, and remains tracked. -/
private theorem ordered_onSession {s : State} (h : Ordered s) {k : SessionId} {session : Session}
    (hsession : session.Tracked s.fates k) : Ordered (s.onSession k session) where
  tracked j := by
    rw [State.onSession_sessions]
    by_cases hjk : j = k
    · subst hjk
      rw [Function.update_self]
      exact hsession
    · rw [Function.update_of_ne hjk]
      exact h.tracked j
  unsent := h.unsent
  held := h.held

/-- The request of a call comes further within its session. -/
private theorem ordered_track {s : State} (h : Ordered s) {k : SessionId} {session : Session}
    {i : CallId} {fate : Fate} (hfate : s.fates i = .queued k ∨ s.fates i = .processing k)
    (hsession : session.Tracked (Function.update s.fates i fate) k) :
    Ordered ((s.onSession k session).track i fate) where
  tracked j := by
    rw [State.track_sessions, State.onSession_sessions, State.track_fates, State.onSession_fates]
    by_cases hjk : j = k
    · subst hjk
      rw [Function.update_self]
      exact hsession
    · rw [Function.update_of_ne hjk]
      apply tracked_update (h.tracked j)
      · rcases hfate with hfate | hfate <;> simp [hfate, Ne.symm hjk]
      · rcases hfate with hfate | hfate <;> simp [hfate, Ne.symm hjk]
      · intro answer
        rcases hfate with hfate | hfate <;> simp [hfate]
  unsent j hj := by
    have hj' := h.unsent j hj
    have hji : j ≠ i := by
      rintro rfl
      rcases hfate with hfate | hfate <;> simp [hj'] at hfate
    rw [State.track_fates, Function.update_of_ne hji]
    exact hj'
  held j answer hj := by
    have hj' := h.held j answer hj
    have hji : j ≠ i := by
      rintro rfl
      rcases hfate with hfate | hfate <;> simp [hj'] at hfate
    rw [State.track_fates, Function.update_of_ne hji]
    exact hj'

private theorem awaited_prefix {session : Session} (h : session.Awaited) :
    session.answers.map Tagged.call <+: session.outstanding := by
  rw [Session.Awaited] at h
  split at h
  · exact h ▸ List.prefix_append _ _
  · exact h ▸ List.prefix_append _ _
  · exact h ▸ List.prefix_append _ _
  · exact h

/-- A session awaits a request that is written behind all others. -/
private theorem awaited_push {session : Session} (h : session.Awaited) (request : Tagged Request) :
    Session.Awaited
      { session with
        requests := session.requests ++ [request]
        outstanding := session.outstanding ++ [request.call] } := by
  simp only [Session.Awaited, List.map_append, List.map_cons, List.map_nil] at h ⊢
  split at h
  · simp only [h, List.append_assoc]
  · simp only [h, List.append_assoc, List.cons_append]
  · simp only [h, List.append_assoc, List.cons_append]
  · exact h.trans (List.prefix_append _ _)

/-- A session awaits the rest after its first answer was read. -/
private theorem awaited_pop {session : Session} (h : session.Awaited) {answer : Tagged Answer}
    {rest : List (Tagged Answer)} (hanswers : session.answers = answer :: rest) :
    Session.Awaited
      { session with answers := rest, outstanding := session.outstanding.tail } := by
  simp only [Session.Awaited, hanswers, List.map_cons, List.cons_append] at h ⊢
  split at h
  · simp only [h, List.tail_cons]
  · simp only [h, List.tail_cons]
  · simp only [h, List.tail_cons]
  · obtain ⟨behind, hbehind⟩ := h
    rw [← hbehind, List.cons_append, List.tail_cons]
    exact List.prefix_append _ _

/-! ### Steps -/

/-- The skeleton stops reading, and may lose the request at hand. -/
private theorem ordered_idle {s : State} (h : Ordered s) (k : SessionId) :
    Ordered (s.onSkeleton k .idle) := by
  have hk := h.tracked k
  have hprefix := awaited_prefix hk.awaited
  exact ordered_onSession h ⟨hk.nodup, hk.queued, by simp, by simp, hk.answers, hprefix⟩

private theorem ordered_onNewSession {s : State} (h : Ordered s) (ec : Option AsyncError)
    (peer : Except Exception Uid) : Ordered (s.onNewSession ec peer) := by
  unfold State.onNewSession
  split
  · exact ⟨h.tracked, h.unsent, h.held⟩
  · exact h
  · split
    · exact ⟨h.tracked, h.unsent, h.held⟩
    next uid =>
      have hnew := ordered_onSession h (tracked_new s.fates s.accepted uid)
      exact ⟨hnew.tracked, hnew.unsent, hnew.held⟩

/-- A request is written behind all others of its session. -/
private theorem ordered_send {s : State} (h : Ordered s) {i : CallId} {k : SessionId}
    {time : Int64} (hi : s.calls i = .resolved k time) (request : Request) :
    Ordered ((s.send i k request).goto i (.written k time)) := by
  have hunsent : s.fates i = .unsent := h.unsent i (by rw [hi]; trivial)
  have hk := tracked_update (h.tracked k) (i := i) (by simp [hunsent]) (by simp [hunsent])
    (by simp [hunsent]) (.queued k)
  have hnotMem : i ∉ (s.sessions k).requests.map Tagged.call := by
    intro hmem
    obtain ⟨r, hr, hri⟩ := List.mem_map.mp hmem
    have hfate := (h.tracked k).queued r hr
    rw [hri, hunsent] at hfate
    cases hfate
  refine ⟨?_, ?_, ?_⟩
  · intro j
    simp only [State.send, State.goto_sessions, State.track_sessions, State.onSession_sessions,
      State.goto_fates, State.track_fates, State.onSession_fates]
    by_cases hjk : j = k
    · subst hjk
      rw [Function.update_self]
      refine ⟨?_, ?_, hk.processing, hk.writing, hk.answers, ?_⟩
      · rw [List.map_append, List.nodup_append]
        refine ⟨hk.nodup, by simp, ?_⟩
        rintro a ha b hb rfl
        rw [List.map_cons, List.map_nil, List.mem_singleton] at hb
        have hai : a = i := hb
        exact hnotMem (hai ▸ ha)
      · intro r hr
        rcases List.mem_append.mp hr with hr | hr
        · exact hk.queued r hr
        · rw [List.mem_singleton.mp hr]
          exact Function.update_self _ _ _
      · exact awaited_push hk.awaited ⟨i, request⟩
    · rw [Function.update_of_ne hjk]
      exact tracked_update (h.tracked j) (by simp [hunsent]) (by simp [hunsent])
        (by simp [hunsent]) _
  · intro j hj
    have hji : j ≠ i := by
      rintro rfl
      simp [State.send, Progress.Unsent] at hj
    simp only [State.send, State.goto_calls, State.track_calls, State.onSession_calls,
      Function.update_of_ne hji] at hj
    simp only [State.send, State.goto_fates, State.track_fates, State.onSession_fates,
      Function.update_of_ne hji]
    exact h.unsent j hj
  · intro j answer hj
    have hji : j ≠ i := by
      rintro rfl
      simp [State.send, Progress.Holds] at hj
    simp only [State.send, State.goto_calls, State.track_calls, State.onSession_calls,
      Function.update_of_ne hji] at hj
    simp only [State.send, State.goto_fates, State.track_fates, State.onSession_fates,
      Function.update_of_ne hji]
    exact h.held j answer hj

/-- The call that is first in line reads its own answer. -/
private theorem ordered_read {s : State} (h : Ordered s) {i : CallId} {k : SessionId}
    {time : Int64} (hhead : (s.sessions k).outstanding.head? = some i) {answer : Tagged Answer}
    {rest : List (Tagged Answer)} (hanswers : (s.sessions k).answers = answer :: rest) :
    Ordered ((s.onSession k
      { s.sessions k with
        answers := rest
        outstanding := (s.sessions k).outstanding.tail }).goto i
      (.answered answer.value time)) := by
  have hk := h.tracked k
  have hfirst := awaited_prefix hk.awaited
  rw [hanswers, List.map_cons] at hfirst
  have hown : answer.call = i := by
    obtain ⟨behind, hbehind⟩ := hfirst
    rw [← hbehind, List.cons_append, List.head?_cons] at hhead
    exact Option.some.inj hhead
  have hmem : answer ∈ (s.sessions k).answers := by simp [hanswers]
  have hfate : s.fates i = .computed answer.value := hown ▸ hk.answers answer hmem
  have hsession : Session.Tracked s.fates k
      { s.sessions k with
        answers := rest
        outstanding := (s.sessions k).outstanding.tail } := by
    refine ⟨hk.nodup, hk.queued, hk.processing, hk.writing, ?_, ?_⟩
    · intro answer' hanswer'
      exact hk.answers answer' (by simp [hanswers, hanswer'])
    · exact awaited_pop hk.awaited hanswers
  have hstep := ordered_onSession h hsession
  refine ⟨hstep.tracked, ?_, ?_⟩
  · intro j hj
    have hji : j ≠ i := by
      rintro rfl
      simp [Progress.Unsent] at hj
    rw [State.goto_calls, Function.update_of_ne hji] at hj
    exact hstep.unsent j hj
  · intro j answer' hj
    rw [State.goto_calls] at hj
    by_cases hji : j = i
    · subst hji
      rw [Function.update_self, Progress.Holds] at hj
      rw [← hj]
      exact hfate
    · rw [Function.update_of_ne hji] at hj
      exact hstep.held j answer' hj

/-- The skeleton reads the oldest request. -/
private theorem ordered_onReadFinished {s : State} (h : Ordered s) {k : SessionId}
    (hskeleton : (s.sessions k).skeleton = .reading) {request : Tagged Request}
    {rest : List (Tagged Request)} (hrequests : (s.sessions k).requests = request :: rest) :
    Ordered ((s.onSession k
      { s.sessions k with
        requests := rest
        skeleton := .processing request }).track request.call (.processing k)) := by
  have hk := h.tracked k
  have hfate : s.fates request.call = .queued k := hk.queued request (by simp [hrequests])
  have hnodup := hk.nodup
  rw [hrequests, List.map_cons, List.nodup_cons] at hnodup
  refine ordered_track h (.inl hfate) ⟨hnodup.2, ?_, ?_, by simp, ?_, ?_⟩
  · intro r hr
    have hne : r.call ≠ request.call := by
      intro heq
      exact hnodup.1 (heq ▸ List.mem_map_of_mem hr)
    rw [Function.update_of_ne hne]
    exact hk.queued r (by simp [hrequests, hr])
  · intro r hr
    cases hr
    exact Function.update_self _ _ _
  · intro answer hanswer
    have hcomputed := hk.answers answer hanswer
    have hne : answer.call ≠ request.call := by
      intro heq
      rw [heq, hfate] at hcomputed
      cases hcomputed
    rw [Function.update_of_ne hne, hcomputed]
  · have hawaited := hk.awaited
    simp only [Session.Awaited, hskeleton, hrequests, List.map_cons] at hawaited
    exact hawaited

/-- The skeleton has computed an answer. -/
private theorem ordered_computed {s : State} (h : Ordered s) {k : SessionId}
    {request : Tagged Request} (hskeleton : (s.sessions k).skeleton = .processing request)
    (answer : Answer) :
    Ordered ((s.onSkeleton k (.writing ⟨request.call, answer⟩)).track request.call
      (.computed answer)) := by
  have hk := h.tracked k
  have hfate : s.fates request.call = .processing k := hk.processing request hskeleton
  refine ordered_track h (.inr hfate) ⟨hk.nodup, ?_, by simp, ?_, ?_, ?_⟩
  · intro r hr
    have hqueued := hk.queued r hr
    have hne : r.call ≠ request.call := by
      intro heq
      rw [heq, hfate] at hqueued
      cases hqueued
    rw [Function.update_of_ne hne, hqueued]
  · intro answer' hanswer'
    cases hanswer'
    exact Function.update_self _ _ _
  · intro answer' hanswer'
    have hcomputed := hk.answers answer' hanswer'
    have hne : answer'.call ≠ request.call := by
      intro heq
      rw [heq, hfate] at hcomputed
      cases hcomputed
    rw [Function.update_of_ne hne, hcomputed]
  · have hawaited := hk.awaited
    simp only [Session.Awaited, hskeleton] at hawaited
    exact hawaited

/-- The skeleton has written an answer. -/
private theorem ordered_writeAnswer {s : State} (h : Ordered s) {k : SessionId}
    {answer : Tagged Answer} (hskeleton : (s.sessions k).skeleton = .writing answer) :
    Ordered (s.onSession k
      { s.sessions k with
        answers := (s.sessions k).answers ++ [answer]
        skeleton := .reading }) := by
  have hk := h.tracked k
  refine ordered_onSession h ⟨hk.nodup, hk.queued, by simp, by simp, ?_, ?_⟩
  · intro answer' hanswer'
    rcases List.mem_append.mp hanswer' with hanswer' | hanswer'
    · exact hk.answers answer' hanswer'
    · rw [List.mem_singleton.mp hanswer']
      exact hk.writing answer hskeleton
  · have hawaited := hk.awaited
    simp only [Session.Awaited, hskeleton] at hawaited
    simp only [Session.Awaited, List.map_append, List.map_cons, List.map_nil, hawaited,
      List.append_assoc, List.cons_append, List.nil_append]

/-- Every step keeps the order, where calls read in order. -/
theorem ordered_step {s t : State} {label : Label} (h : Ordered s) (hinOrder : InOrder s label)
    (hstep : step parameters s label = some t) : Ordered t := by
  cases steps_of_step hstep with
  | startTimeBeforeQuery hi =>
    exact ordered_goto h (fun _ => by rw [hi]; trivial) (fun _ hholds => hholds.elim)
  | startTimeBeforeQueryThrows => exact ordered_error h _ _
  | resolveSession hi =>
    exact ordered_goto h (fun _ => by rw [hi]; trivial) (fun _ hholds => hholds.elim)
  | resolveSessionThrows => exact ordered_error h _ _
  | write hi => exact ordered_send h hi _
  | writeFails => exact ordered_handleError h _ _ _
  | read hi hanswers =>
    simp only [InOrder, hi] at hinOrder
    exact ordered_read h hinOrder hanswers
  | readFails => exact ordered_handleError h _ _ _
  | startTimeAfterQuery hi =>
    refine ordered_goto h (fun hunsent => hunsent.elim) fun _ hholds => ?_
    rw [hi]
    exact hholds
  | startTimeAfterQueryDiffers => exact ordered_error h _ _
  | startTimeAfterQueryThrows => exact ordered_error h _ _
  | onNewSession => exact ordered_onNewSession h _ _
  | onReadFinished _ hskeleton hrequests => exact ordered_onReadFinished h hskeleton hrequests
  | onReadAborted => exact ordered_idle h _
  | onReadFails => exact h
  | processIncomingRequest hskeleton => exact ordered_computed h hskeleton _
  | processIncomingRequestThrows => exact ordered_idle h _
  | writeAnswer hskeleton => exact ordered_writeAnswer h hskeleton
  | writeAnswerFails => exact ordered_idle h _

/-- Nothing is on its way at the start. -/
theorem ordered_start : Ordered start where
  tracked k := tracked_new _ k ⟨0⟩
  unsent _ _ := rfl
  held _ _ hholds := hholds.elim

/-- However calls, acceptor and skeletons interleave: if calls read in order, each that returns
normally returns the answer computed for its own request. -/
theorem ownAnswers_run {labels : List Label} {t : State}
    (hinOrder : Transition.Meets (step parameters) InOrder start labels)
    (hrun : Transition.run (step parameters) start labels = some t) : OwnAnswers t := by
  have ht := Transition.invariant_run (fun _ _ _ hs hl hstep => ordered_step hs hl hstep)
    ordered_start hinOrder hrun
  intro i answer hi
  exact ht.held i answer (by rw [hi]; rfl)

/-- The callers: one thread for each of the processes 42 and 43 of the user 1000. -/
def callers (i : CallId) : RequestParameters :=
  ⟨⟨⟨1000⟩, ⟨if i = 0 then 42 else 43⟩, ""⟩, ⟨1⟩, ""⟩

/-- A skeleton that grants the requests of the process 43 only. -/
def granting : Skeleton.Configuration PUnit where
  impl parameters := return if parameters.application.pid = ⟨43⟩ then .granted else .denied
  startTimeResolver _ := return 7
  appIdResolver _ := return "app"
  descriptionFormat := ""
  verifyProcessStartTime := true

/-- Both calls write their requests, and the skeleton answers them in order. -/
def bothWritten : List Label :=
  [.onNewSession none (.ok ⟨1000⟩), .startTimeBeforeQuery 0 (.ok 7), .resolveSession 0,
    .startTimeBeforeQuery 1 (.ok 7), .resolveSession 1, .write 0 none, .write 1 none,
    .onReadFinished 0 none, .processIncomingRequest 0 granting, .writeAnswer 0 none,
    .onReadFinished 0 none, .processIncomingRequest 0 granting, .writeAnswer 0 none]

/-- The calls read in the order in which they wrote. -/
def readInOrder : List Label :=
  bothWritten ++ [.read 0 none, .read 1 none, .startTimeAfterQuery 1 (.ok 7)]

/-- The second call reads first. -/
def readOutOfOrder : List Label :=
  bothWritten ++ [.read 1 none, .read 0 none, .startTimeAfterQuery 0 (.ok 7)]

/-- In order, the second call is granted what was granted to it. -/
theorem ownAnswers_readInOrder : ∃ t,
    Transition.run (step callers) start readInOrder = some t ∧
      t.calls 1 = .finished (.ok .granted) ∧ OwnAnswers t := by
  refine ⟨_, rfl, rfl, ?_⟩
  have hrun : Transition.run (step callers) start readInOrder = some _ := rfl
  exact ownAnswers_run (by decide) hrun

/-- Out of order, the first call is granted what was granted to the second. -/
theorem not_ownAnswers_readOutOfOrder : ∃ t,
    Transition.run (step callers) start readOutOfOrder = some t ∧ ¬ OwnAnswers t := by
  refine ⟨_, rfl, ?_⟩
  intro h
  cases (h 0 .granted rfl).symm.trans (rfl : _ = Fate.computed .denied)

end TrustStore.Remote.Posix
