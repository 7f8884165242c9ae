import TrustStore.Remote.Posix
import Mathlib.Data.List.Find

/-!
# The session of a user

The stub forgets the session of a user when a send call fails because the peer is gone. It tells
that from the bare value of the error code, and forgets whatever session the user has by then.
Here it is written down on which sessions the peer was gone.
-/

namespace TrustStore.Remote.Posix

open TrustStore.Base

/-- The categories of the error codes of boost::asio. -/
inductive ErrorCategory where
  | system
  | netdb
  | addrinfo
  | misc
  deriving DecidableEq, Repr

/-- `boost::system::error_code` -/
structure ErrorCode where
  value : Int
  category : ErrorCategory
  deriving DecidableEq, Repr

/-- `boost::asio::error::eof` -/
def ErrorCode.eof : ErrorCode := ⟨2, .misc⟩

/-- The peer is gone: access denied, broken pipe, connection aborted, refused or reset, or end of
file. -/
def ErrorCode.isPeerGone (ec : ErrorCode) : Bool :=
  ec.category = .system && peerGone ec.value || ec = .eof

/-- A step, with the category of the error code in it. -/
structure Event where
  label : Label
  category : ErrorCategory

/-- A socket operation of a call that failed, with the value of the error code. -/
structure Failure where
  call : CallId
  session : SessionId
  value : Int
  deriving DecidableEq

/-- The socket operation that fails in a step. -/
def failure (s : State) : Label → Option Failure
  | .write i (some ec) =>
    match s.calls i with
    | .resolved k _ => some ⟨i, k, ec⟩
    | _ => none
  | .read i (some ec) =>
    match s.calls i with
    | .written k _ => some ⟨i, k, ec⟩
    | _ => none
  | _ => none

/-- The stub, and the sessions on which a call failed because the peer was gone. -/
structure Watched where
  state : State
  gone : SessionId → Bool

namespace Watched

/-- Nothing has failed yet. -/
def start : Watched := ⟨Posix.start, fun _ => false⟩

/-- The error code of a failure, in a category. -/
def code (failure : Failure) (category : ErrorCategory) : ErrorCode := ⟨failure.value, category⟩

/-- One step of the stub, where it is noted if the peer is gone. -/
def step (parameters : CallId → RequestParameters) (w : Watched) (event : Event) :
    Option Watched :=
  (Posix.step parameters w.state event.label).map fun t =>
    { state := t
      gone :=
        match failure w.state event.label with
        | some f =>
          if (code f event.category).isPeerGone then Function.update w.gone f.session true
          else w.gone
        | none => w.gone }

end Watched

/-- The session that was accepted last of those with a peer. -/
def latest (s : State) (uid : Uid) : Option SessionId :=
  (List.range s.accepted).reverse.find? fun k => (s.sessions k).peer = uid

/-- The registry has the latest session of every user, unless its peer is gone. -/
def Agreed (w : Watched) : Prop :=
  ∀ uid, w.state.registry uid = (latest w.state uid).filter fun k => !w.gone k

/-- The session that a call is about to use. -/
def Progress.session : Progress → Option SessionId
  | .resolved k _ | .written k _ => some k
  | .entered | .timed _ | .answered _ _ | .finished _ => none

/-- Calls use sessions of the user they are for, and only requests for its peer are in a
session. -/
structure Routed (parameters : CallId → RequestParameters) (s : State) : Prop where
  registered : ∀ uid k, s.registry uid = some k → k < s.accepted ∧ (s.sessions k).peer = uid
  used : ∀ i k, (s.calls i).session = some k →
    k < s.accepted ∧ (s.sessions k).peer = (parameters i).application.uid
  requests : ∀ k, ∀ request ∈ (s.sessions k).requests,
    request.value.appUid = (s.sessions k).peer

/-- If the registry has a session for the user of a failed call, then the value of the error code
is one that the stub takes for a peer that is gone if and only if it is, and the session is the
one of the call. -/
def Handled (parameters : CallId → RequestParameters) (w : Watched) (event : Event) : Prop :=
  match failure w.state event.label with
  | none => True
  | some f =>
    w.state.registry (parameters f.call).application.uid = none ∨
      (peerGone f.value = true ↔ (Watched.code f event.category).isPeerGone = true ∧
        w.state.registry (parameters f.call).application.uid = some f.session)

instance (parameters : CallId → RequestParameters) (w : Watched) (event : Event) :
    Decidable (Handled parameters w event) :=
  match h : failure w.state event.label with
  | none => .isTrue (by simp [Handled, h])
  | some f => decidable_of_iff
      (w.state.registry (parameters f.call).application.uid = none ∨
        (peerGone f.value = true ↔ (Watched.code f event.category).isPeerGone = true ∧
          w.state.registry (parameters f.call).application.uid = some f.session))
      (by simp [Handled, h])

/-- A step that handles its failure takes no session from the registry but the one that
failed. -/
def FailsAlone (parameters : CallId → RequestParameters) (w : Watched) : Prop :=
  ∀ event w', Handled parameters w event → Watched.step parameters w event = some w' →
    ∀ f, failure w.state event.label = some f →
      ∀ uid k, w.state.registry uid = some k → k ≠ f.session → w'.state.registry uid = some k

variable {parameters : CallId → RequestParameters} {s t : State} {label : Label}

/-! ### Registry and sessions -/

/-- No session is accepted, and none changes its peer. -/
structure SamePeers (s t : State) : Prop where
  accepted : t.accepted = s.accepted
  peer : ∀ k, (t.sessions k).peer = (s.sessions k).peer

private theorem SamePeers.refl (s : State) : SamePeers s s := ⟨rfl, fun _ => rfl⟩

private theorem samePeers_onSession {k : SessionId} {session : Session}
    (haccepted : t.accepted = s.accepted)
    (hsessions : t.sessions = Function.update s.sessions k session)
    (hpeer : session.peer = (s.sessions k).peer) : SamePeers s t where
  accepted := haccepted
  peer j := by
    rw [hsessions]
    by_cases hjk : j = k
    · subst hjk
      rw [Function.update_self, hpeer]
    · rw [Function.update_of_ne hjk]

private theorem handleError_eq (i : CallId) (ec : Int) (uid : Uid) :
    SamePeers s (s.handleErrorFromSocketOperationForUid i ec uid) ∧
    (s.handleErrorFromSocketOperationForUid i ec uid).registry =
      if peerGone ec then Function.update s.registry uid none else s.registry := by
  rw [State.handleErrorFromSocketOperationForUid]
  split <;> exact ⟨⟨rfl, fun _ => rfl⟩, rfl⟩

/-- A step accepts a session and registers it, or forgets the session of a failed call's user, or
leaves the registry alone. -/
theorem registry_cases (h : Steps parameters s label t) :
    (∃ uid, label = .onNewSession none (.ok uid) ∧ t = s.onNewSession none (.ok uid)) ∨
    SamePeers s t ∧ t.registry =
      match failure s label with
      | some f => if peerGone f.value then
          Function.update s.registry (parameters f.call).application.uid none else s.registry
      | none => s.registry := by
  cases h with
  | writeFails hi =>
    simp only [failure, hi]
    exact .inr (handleError_eq _ _ _)
  | readFails hi =>
    simp only [failure, hi]
    exact .inr (handleError_eq _ _ _)
  | @onNewSession ec peer haccepts =>
    cases ec with
    | some e => cases e <;> exact .inr ⟨⟨rfl, fun _ => rfl⟩, rfl⟩
    | none =>
      cases peer with
      | error e => exact .inr ⟨⟨rfl, fun _ => rfl⟩, rfl⟩
      | ok uid => exact .inl ⟨uid, rfl, rfl⟩
  | startTimeBeforeQuery => exact .inr ⟨⟨rfl, fun _ => rfl⟩, rfl⟩
  | startTimeBeforeQueryThrows => exact .inr ⟨⟨rfl, fun _ => rfl⟩, rfl⟩
  | resolveSession => exact .inr ⟨⟨rfl, fun _ => rfl⟩, rfl⟩
  | resolveSessionThrows => exact .inr ⟨⟨rfl, fun _ => rfl⟩, rfl⟩
  | write => exact .inr ⟨samePeers_onSession rfl rfl rfl, rfl⟩
  | read => exact .inr ⟨samePeers_onSession rfl rfl rfl, rfl⟩
  | startTimeAfterQuery => exact .inr ⟨⟨rfl, fun _ => rfl⟩, rfl⟩
  | startTimeAfterQueryDiffers => exact .inr ⟨⟨rfl, fun _ => rfl⟩, rfl⟩
  | startTimeAfterQueryThrows => exact .inr ⟨⟨rfl, fun _ => rfl⟩, rfl⟩
  | onReadFinished => exact .inr ⟨samePeers_onSession rfl rfl rfl, rfl⟩
  | onReadAborted => exact .inr ⟨samePeers_onSession rfl rfl rfl, rfl⟩
  | onReadFails => exact .inr ⟨⟨rfl, fun _ => rfl⟩, rfl⟩
  | processIncomingRequest => exact .inr ⟨samePeers_onSession rfl rfl rfl, rfl⟩
  | processIncomingRequestThrows => exact .inr ⟨samePeers_onSession rfl rfl rfl, rfl⟩
  | writeAnswer => exact .inr ⟨samePeers_onSession rfl rfl rfl, rfl⟩
  | writeAnswerFails => exact .inr ⟨samePeers_onSession rfl rfl rfl, rfl⟩

private theorem latest_eq_of_samePeers (h : SamePeers s t) (uid : Uid) :
    latest t uid = latest s uid := by
  simp only [latest, h.accepted, h.peer]

private theorem latest_some {uid : Uid} {k : SessionId} (h : latest s uid = some k) :
    k < s.accepted ∧ (s.sessions k).peer = uid := by
  refine ⟨?_, by simpa using List.find?_some h⟩
  simpa using List.mem_of_find?_eq_some h

/-- A session that is accepted is the latest of its peer. -/
private theorem latest_onNewSession (s : State) (peer uid : Uid) :
    latest (s.onNewSession none (.ok peer)) uid =
      if peer = uid then some s.accepted else latest s uid := by
  have hrest : ∀ k ∈ (List.range s.accepted).reverse,
      decide (((s.onNewSession none (.ok peer)).sessions k).peer = uid) =
        decide ((s.sessions k).peer = uid) := by
    intro k hk
    have hne : k ≠ s.accepted := Nat.ne_of_lt (by simpa using hk)
    simp [State.onNewSession, State.addSessionForUid, Function.update_of_ne hne]
  have hnew : ((s.onNewSession none (.ok peer)).sessions s.accepted).peer = peer := by
    simp [State.onNewSession, State.addSessionForUid, Session.new]
  have haccepted : (s.onNewSession none (.ok peer)).accepted = s.accepted + 1 := rfl
  rw [latest, haccepted, List.range_succ, List.reverse_append, List.reverse_singleton,
    List.singleton_append, List.find?_cons, hnew]
  by_cases h : peer = uid
  · simp [h]
  · simp only [h, decide_false, if_false]
    exact List.find?_congr hrest

/-- Where a map `registry` has the `latest` session of each user that is not `gone`, it still does
after it may forget a user `uid` and a session `k` of that user may go, unless one happens without
the other. -/
private theorem agreed_update {registry latest : Uid → Option SessionId} {gone : SessionId → Bool}
    (h : ∀ v, registry v = (latest v).filter fun m => !gone m) {uid : Uid} {k : SessionId}
    (hk : ∀ v, latest v = some k → v = uid) (forgets goes : Bool) :
    (∀ v, (if forgets then Function.update registry uid none else registry) v =
      (latest v).filter fun m => !(if goes then Function.update gone k true else gone) m) ↔
    registry uid = none ∨ (forgets = true ↔ goes = true ∧ registry uid = some k) := by
  have hgone : ∀ m, (if goes then Function.update gone k true else gone) m =
      (gone m || goes && decide (m = k)) := by
    intro m
    by_cases hm : m = k <;> cases goes <;> simp [hm]
  have hregistry : ∀ v, (if forgets then Function.update registry uid none else registry) v =
      if forgets && decide (v = uid) then none else registry v := by
    intro v
    by_cases hv : v = uid <;> cases forgets <;> simp [hv]
  have hother : ∀ v, v ≠ uid → (if forgets && decide (v = uid) then none else registry v) =
      (latest v).filter fun m => !(gone m || goes && decide (m = k)) := by
    intro v hv
    rw [decide_eq_false hv, Bool.and_false, if_neg Bool.false_ne_true, h v]
    cases hm : latest v with
    | none => rfl
    | some m =>
      have hne : m ≠ k := fun heq => hv (hk v (heq ▸ hm))
      simp [Option.filter, hne]
  have huid : (if forgets && decide (uid = uid) then none else registry uid) =
      ((latest uid).filter fun m => !(gone m || goes && decide (m = k))) ↔
      registry uid = none ∨ (forgets = true ↔ goes = true ∧ registry uid = some k) := by
    rw [h uid]
    cases latest uid with
    | none => simp
    | some m =>
      cases hm : gone m <;> by_cases hmk : m = k <;> cases forgets <;> cases goes <;>
        simp [Option.filter, hm, hmk]
  simp only [hgone, hregistry]
  rw [← huid]
  constructor
  · intro hall
    exact hall uid
  · intro hself v
    by_cases hv : v = uid
    · rw [hv]
      exact hself
    · exact hother v hv

/-- What is known in every state of a run: who is on the sessions, and that only sessions that
were accepted are gone. -/
structure Known (parameters : CallId → RequestParameters) (w : Watched) : Prop where
  routed : Routed parameters w.state
  accepted : ∀ k, w.gone k = true → k < w.state.accepted

/-- The session of a failed call is one of the call's user. -/
private theorem failure_peer (h : Routed parameters s) {f : Failure}
    (hf : failure s label = some f) :
    f.session < s.accepted ∧ (s.sessions f.session).peer = (parameters f.call).application.uid := by
  cases label with
  | write i ec =>
    cases ec with
    | none => cases hf
    | some ec =>
      simp only [failure] at hf
      split at hf
      next k time hi =>
        cases hf
        exact h.used i k (by rw [hi, Progress.session])
      next => cases hf
  | read i ec =>
    cases ec with
    | none => cases hf
    | some ec =>
      simp only [failure] at hf
      split at hf
      next k time hi =>
        cases hf
        exact h.used i k (by rw [hi, Progress.session])
      next => cases hf
  | _ => cases hf

/-- The registry that has the latest sessions has them after a step, too, if and only if the step
handles its failure. -/
theorem agreed_step_iff {w w' : Watched} {event : Event} (h : Agreed w)
    (hknown : Known parameters w) (hstep : Watched.step parameters w event = some w') :
    Agreed w' ↔ Handled parameters w event := by
  obtain ⟨t, ht, rfl⟩ := Option.map_eq_some_iff.mp hstep
  rcases registry_cases (steps_of_step ht) with ⟨peer, hlabel, rfl⟩ | ⟨hsame, hregistry⟩
  · -- a new session is the latest of its user, and nobody has failed on it
    simp only [Handled, hlabel, failure, iff_true]
    intro uid
    have hfresh : w.gone w.state.accepted = false := by
      cases hgone : w.gone w.state.accepted with
      | false => rfl
      | true => exact absurd (hknown.accepted _ hgone) (Nat.lt_irrefl _)
    have hregistry : (w.state.onNewSession none (.ok peer)).registry =
        Function.update w.state.registry peer (some w.state.accepted) := rfl
    simp only [latest_onNewSession, hregistry]
    by_cases hpeer : peer = uid
    · subst hpeer
      simp [Option.filter, hfresh]
    · rw [if_neg hpeer, Function.update_of_ne (Ne.symm hpeer)]
      exact h uid
  · cases hf : failure w.state event.label with
    | none =>
      rw [hf] at hregistry
      simp only [Handled, hf, iff_true]
      intro uid
      simp only [latest_eq_of_samePeers hsame, hregistry]
      exact h uid
    | some f =>
      rw [hf] at hregistry
      have hsession : ∀ v, latest w.state v = some f.session →
          v = (parameters f.call).application.uid := by
        intro v hv
        rw [← (latest_some hv).2, (failure_peer hknown.routed hf).2]
      simp only [Handled, Agreed, hf, latest_eq_of_samePeers hsame, hregistry]
      exact agreed_update h hsession (peerGone f.value) (Watched.code f event.category).isPeerGone

/-! ### Who is on a session -/

/-- A call goes on, and keeps to the sessions of its user. -/
private theorem routed_goto (h : Routed parameters s) {i : CallId} {progress : Progress}
    (hi : ∀ k, progress.session = some k →
      k < s.accepted ∧ (s.sessions k).peer = (parameters i).application.uid) :
    Routed parameters (s.goto i progress) where
  registered := h.registered
  used j k hj := by
    rw [State.goto_calls] at hj
    by_cases hji : j = i
    · subst hji
      rw [Function.update_self] at hj
      exact hi k hj
    · rw [Function.update_of_ne hji] at hj
      exact h.used j k hj
  requests := h.requests

/-- A call goes on without a session. -/
private theorem routed_leave (h : Routed parameters s) {i : CallId} {progress : Progress}
    (hi : progress.session = none) : Routed parameters (s.goto i progress) := by
  refine routed_goto h fun k hk => ?_
  rw [hi] at hk
  cases hk

/-- A session goes on, and keeps its peer. -/
private theorem routed_onSession (h : Routed parameters s) {k : SessionId} {session : Session}
    (hpeer : session.peer = (s.sessions k).peer)
    (hrequests : ∀ request ∈ session.requests, request.value.appUid = session.peer) :
    Routed parameters (s.onSession k session) := by
  have hpeers : SamePeers s (s.onSession k session) := samePeers_onSession rfl rfl hpeer
  refine ⟨?_, ?_, ?_⟩
  · intro uid m hm
    rw [hpeers.accepted, hpeers.peer]
    exact h.registered uid m hm
  · intro i m hi
    rw [hpeers.accepted, hpeers.peer]
    exact h.used i m hi
  · intro m
    rw [State.onSession_sessions]
    by_cases hmk : m = k
    · subst hmk
      rw [Function.update_self]
      exact hrequests
    · rw [Function.update_of_ne hmk]
      exact h.requests m

private theorem routed_onSkeleton (h : Routed parameters s) (k : SessionId) (phase : Phase) :
    Routed parameters (s.onSkeleton k phase) :=
  routed_onSession h rfl (h.requests k)

private theorem routed_track (h : Routed parameters s) (i : CallId) (fate : Fate) :
    Routed parameters (s.track i fate) :=
  ⟨h.registered, h.used, h.requests⟩

private theorem routed_handleError (h : Routed parameters s) (i : CallId) (ec : Int) (uid : Uid) :
    Routed parameters (s.handleErrorFromSocketOperationForUid i ec uid) := by
  rw [State.handleErrorFromSocketOperationForUid]
  refine routed_leave ?_ rfl
  split
  · refine ⟨?_, h.used, h.requests⟩
    intro v k hv
    simp only [State.removeSessionForUid] at hv
    by_cases hvu : v = uid
    · subst hvu
      rw [Function.update_self] at hv
      cases hv
    · rw [Function.update_of_ne hvu] at hv
      exact h.registered v k hv
  · exact h

/-- A session that is accepted is registered for its peer. -/
private theorem routed_onNewSession (h : Routed parameters s) (ec : Option AsyncError)
    (peer : Except Exception Uid) : Routed parameters (s.onNewSession ec peer) := by
  cases ec with
  | some e => cases e <;> exact ⟨h.registered, h.used, h.requests⟩
  | none =>
    cases peer with
    | error e => exact ⟨h.registered, h.used, h.requests⟩
    | ok uid =>
      have hold : ∀ k, k < s.accepted →
          ((s.onNewSession none (.ok uid)).sessions k) = s.sessions k :=
        fun k hk => Function.update_of_ne (Nat.ne_of_lt hk) _ _
      have hnew : (s.onNewSession none (.ok uid)).sessions s.accepted = Session.new uid :=
        Function.update_self _ _ _
      have haccepted : (s.onNewSession none (.ok uid)).accepted = s.accepted + 1 := rfl
      refine ⟨?_, ?_, ?_⟩
      · intro v k hv
        have hregistry : (s.onNewSession none (.ok uid)).registry =
            Function.update s.registry uid (some s.accepted) := rfl
        rw [hregistry] at hv
        by_cases hvu : v = uid
        · subst hvu
          rw [Function.update_self] at hv
          cases hv
          rw [hnew]
          exact ⟨Nat.lt_succ_self _, rfl⟩
        · rw [Function.update_of_ne hvu] at hv
          obtain ⟨hk, hpeer⟩ := h.registered v k hv
          rw [hold k hk]
          exact ⟨Nat.lt_succ_of_lt hk, hpeer⟩
      · intro i k hi
        obtain ⟨hk, hpeer⟩ := h.used i k hi
        rw [hold k hk]
        exact ⟨Nat.lt_succ_of_lt hk, hpeer⟩
      · intro k
        by_cases hk : k = s.accepted
        · subst hk
          rw [hnew]
          intro request hrequest
          cases hrequest
        · have hother : (s.onNewSession none (.ok uid)).sessions k = s.sessions k :=
            Function.update_of_ne hk _ _
          rw [hother]
          exact h.requests k

/-- A call writes a request for its user. -/
private theorem routed_send (h : Routed parameters s) {i : CallId} {k : SessionId}
    (hi : (s.calls i).session = some k) {request : Request}
    (hrequest : request.appUid = (parameters i).application.uid) (time : Int64) :
    Routed parameters ((s.send i k request).goto i (.written k time)) := by
  have huser := h.used i k hi
  have hpeers : SamePeers s (s.send i k request) := samePeers_onSession rfl rfl rfl
  have hsend : Routed parameters (s.send i k request) := by
    refine routed_track (routed_onSession h (by rfl) ?_) i (.queued k)
    intro r hr
    rcases List.mem_append.mp hr with hr | hr
    · exact h.requests k r hr
    · rw [List.mem_singleton.mp hr]
      exact hrequest.trans huser.2.symm
  refine routed_goto hsend fun m hm => ?_
  cases hm
  rw [hpeers.accepted, hpeers.peer]
  exact huser

/-- Whatever happens, calls keep to the sessions of their users. -/
theorem routed_step (h : Routed parameters s) (hstep : step parameters s label = some t) :
    Routed parameters t := by
  cases steps_of_step hstep with
  | startTimeBeforeQuery => exact routed_leave h rfl
  | startTimeBeforeQueryThrows => exact routed_leave h rfl
  | resolveSession hi hk =>
    refine routed_goto h fun k hsession => ?_
    cases hsession
    exact h.registered _ _ hk
  | resolveSessionThrows => exact routed_leave h rfl
  | write hi => exact routed_send h (by rw [hi, Progress.session]) rfl _
  | writeFails => exact routed_handleError h _ _ _
  | @read i k =>
    refine routed_leave (routed_onSession h ?_ ?_) rfl
    · rfl
    · exact h.requests k
  | readFails => exact routed_handleError h _ _ _
  | startTimeAfterQuery => exact routed_leave h rfl
  | startTimeAfterQueryDiffers => exact routed_leave h rfl
  | startTimeAfterQueryThrows => exact routed_leave h rfl
  | onNewSession => exact routed_onNewSession h _ _
  | @onReadFinished k request requests hk hskeleton hrequests =>
    refine routed_track (routed_onSession h (by rfl) ?_) _ _
    intro r hr
    exact h.requests k r (by rw [hrequests]; exact List.mem_cons_of_mem _ hr)
  | onReadAborted => exact routed_onSkeleton h _ _
  | onReadFails => exact h
  | processIncomingRequest => exact routed_track (routed_onSkeleton h _ _) _ _
  | processIncomingRequestThrows => exact routed_onSkeleton h _ _
  | @writeAnswer k => exact routed_onSession h (by rfl) (h.requests k)
  | writeAnswerFails => exact routed_onSkeleton h _ _

private theorem accepted_le (h : Steps parameters s label t) : s.accepted ≤ t.accepted := by
  rcases registry_cases h with ⟨uid, -, rfl⟩ | ⟨hsame, -⟩
  · exact Nat.le_succ s.accepted
  · exact hsame.accepted.ge

/-- What is known remains known. -/
theorem known_step {w w' : Watched} {event : Event} (h : Known parameters w)
    (hstep : Watched.step parameters w event = some w') : Known parameters w' := by
  obtain ⟨t, ht, rfl⟩ := Option.map_eq_some_iff.mp hstep
  refine ⟨routed_step h.routed ht, fun k hk => ?_⟩
  apply Nat.lt_of_lt_of_le _ (accepted_le (steps_of_step ht))
  cases hf : failure w.state event.label with
  | none =>
    simp only [hf] at hk
    exact h.accepted k hk
  | some f =>
    simp only [hf] at hk
    split at hk
    · by_cases hkf : k = f.session
      · rw [hkf]
        exact (failure_peer h.routed hf).1
      · rw [Function.update_of_ne hkf] at hk
        exact h.accepted k hk
    · exact h.accepted k hk

private theorem failsAlone (w : Watched) : FailsAlone parameters w := by
  intro event w' hhandled hstep f hf uid k hk hne
  obtain ⟨t, ht, rfl⟩ := Option.map_eq_some_iff.mp hstep
  rcases registry_cases (steps_of_step ht) with ⟨peer, hlabel, -⟩ | ⟨-, hregistry⟩
  · rw [hlabel] at hf
    cases hf
  · simp only [hregistry, hf]
    split
    next hpeerGone =>
      by_cases huid : uid = (parameters f.call).application.uid
      · subst huid
        simp only [Handled, hf, hk] at hhandled
        rcases hhandled with hnone | hiff
        · cases hnone
        · exact absurd (Option.some.inj (hiff.mp hpeerGone).2) hne
      · rw [Function.update_of_ne huid, hk]
    next => exact hk

/-- Nobody is connected at the start. -/
private theorem agreed_start : Agreed Watched.start := fun _ => rfl

private theorem known_start : Known parameters Watched.start where
  routed :=
    { registered := by simp [Watched.start, start]
      used := by simp [Watched.start, start, Progress.session]
      requests := by simp [Watched.start, start, Session.new] }
  accepted k hk := by cases hk

/-- However connections, calls and their failures interleave, in every run whose steps handle
their failures: the registry has the latest session of every user unless its peer is gone,
requests are only in sessions of their users, and a failure takes no other session from the
registry. -/
theorem agreed_run {events : List Event} {w : Watched}
    (hhandled : Transition.Meets (Watched.step parameters) (Handled parameters) Watched.start
      events)
    (hrun : Transition.run (Watched.step parameters) Watched.start events = some w) :
    Agreed w ∧ Routed parameters w.state ∧ FailsAlone parameters w := by
  have hstep : ∀ v event v', Agreed v ∧ Known parameters v → Handled parameters v event →
      Watched.step parameters v event = some v' → Agreed v' ∧ Known parameters v' := by
    intro v event v' hv hevent hstep
    exact ⟨(agreed_step_iff hv.1 hv.2 hstep).mpr hevent, known_step hv.2 hstep⟩
  have hinv := Transition.invariant_run hstep ⟨agreed_start, known_start⟩ hhandled hrun
  exact ⟨hinv.1, hinv.2.routed, failsAlone w⟩

/-- All calls are for one user. -/
def ownCalls (_ : CallId) : RequestParameters := ⟨⟨⟨1000⟩, ⟨42⟩, ""⟩, ⟨1⟩, ""⟩

/-- Two calls are about to write to the first session of the user. -/
def bothResolved : List Event :=
  [⟨.onNewSession none (.ok ⟨1000⟩), .system⟩,
    ⟨.startTimeBeforeQuery 0 (.ok 7), .system⟩, ⟨.resolveSession 0, .system⟩,
    ⟨.startTimeBeforeQuery 1 (.ok 7), .system⟩, ⟨.resolveSession 1, .system⟩]

/-- The first call is reset, the second one finds a broken pipe, and the user connects again. -/
def reconnected : List Event :=
  bothResolved ++
    [⟨.write 0 none, .system⟩, ⟨.read 0 (some 104), .system⟩, ⟨.write 1 (some 32), .system⟩,
      ⟨.onNewSession none (.ok ⟨1000⟩), .system⟩]

/-- The first call is reset and the user connects again before the second one finds a broken
pipe. -/
def reconnectedBetween : List Event :=
  bothResolved ++
    [⟨.write 0 none, .system⟩, ⟨.read 0 (some 104), .system⟩,
      ⟨.onNewSession none (.ok ⟨1000⟩), .system⟩, ⟨.write 1 (some 32), .system⟩]

/-- The peer closes the session before it answers the first call. -/
def closed : List Event :=
  bothResolved ++
    [⟨.write 0 none, .system⟩, ⟨.read 0 (some ErrorCode.eof.value), ErrorCode.eof.category⟩]

/-- After both calls have failed, the registry has the new session. -/
theorem agreed_reconnected : ∃ w,
    Transition.run (Watched.step ownCalls) Watched.start reconnected = some w ∧
      w.state.registry ⟨1000⟩ = some 1 ∧
      Agreed w ∧ Routed ownCalls w.state ∧ FailsAlone ownCalls w := by
  refine ⟨_, rfl, rfl, ?_⟩
  have hrun : Transition.run (Watched.step ownCalls) Watched.start reconnected = some _ := rfl
  exact agreed_run (by decide) hrun

/-- A session at the end of its file stays in the registry, and a failure on the old session
takes the new one away. -/
theorem not_agreed_closed :
    (∃ w, Transition.run (Watched.step ownCalls) Watched.start closed = some w ∧
      w.state.registry ⟨1000⟩ = some 0 ∧ w.gone 0 = true ∧ ¬Agreed w) ∧
    ∃ w, Transition.run (Watched.step ownCalls) Watched.start reconnectedBetween = some w ∧
      w.state.registry ⟨1000⟩ = none ∧ latest w.state ⟨1000⟩ = some 1 ∧ w.gone 1 = false ∧
        ¬Agreed w := by
  refine ⟨⟨_, rfl, rfl, rfl, ?_⟩, _, rfl, rfl, rfl, rfl, ?_⟩
  · intro h
    exact absurd (h ⟨1000⟩) (by decide)
  · intro h
    exact absurd (h ⟨1000⟩) (by decide)

end TrustStore.Remote.Posix
