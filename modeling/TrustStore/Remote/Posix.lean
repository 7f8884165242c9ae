import TrustStore.Base.Transition
import TrustStore.Core.Agent
import Mathlib.Logic.Function.Basic

/-!
# Requests over a unix socket

Models `remote::posix::Stub` and `remote::posix::Skeleton`, `src/core/trust/remote/posix.cpp`:
any number of threads in `Stub::send`, the registry of sessions, and the skeleton at the other
end of each session. The two directions of a socket are reliable queues of whole structs. What
travels is tagged with the call it belongs to, which no end of the socket gets to see.
-/

namespace TrustStore.Remote.Posix

open TrustStore.Base

/-- `remote::posix::Request`; `src/core/trust/remote/posix.h:51–62`. -/
structure Request where
  appUid : Uid
  appPid : Pid
  feature : Feature
  appStartTime : Int64
  deriving DecidableEq, Repr

namespace Skeleton

/-- `Skeleton::Configuration`; `src/core/trust/remote/posix.h:198–217`. -/
structure Configuration (σ : Type) where
  impl : Agent σ
  startTimeResolver : Pid → Action σ Int64
  appIdResolver : Pid → Action σ String
  descriptionFormat : String
  verifyProcessStartTime : Bool

/-- `Skeleton::process_incoming_request`; `src/core/trust/remote/posix.cpp:311–335`. -/
def processIncomingRequest {σ : Type} (config : Configuration σ) (request : Request) :
    Action σ Answer := do
  if config.verifyProcessStartTime then
    if (← config.startTimeResolver request.appPid) ≠ request.appStartTime then
      throw (.runtimeError "Potential spoofing detected on incoming request.")
  let appId ← config.appIdResolver request.appPid
  config.impl
    { application :=
        { uid := request.appUid
          pid := request.appPid
          id := appId }
      feature := request.feature
      description := config.descriptionFormat }

end Skeleton

/-- Names for the threads that call `Stub::send`, each once. -/
abbrev CallId := Nat

/-- Names for sessions, in the order of their connections. -/
abbrev SessionId := Nat

/-- A value that belongs to a call. -/
structure Tagged (α : Type) where
  call : CallId
  value : α
  deriving DecidableEq

/-- What the skeleton of a session is about to do; `src/core/trust/remote/posix.cpp:279–309`. -/
inductive Phase where
  /-- to finish the outstanding read -/
  | reading
  /-- to process the request that was read -/
  | processing (request : Tagged Request)
  /-- to write the answer -/
  | writing (answer : Tagged Answer)
  /-- nothing: no read is outstanding -/
  | idle
  deriving DecidableEq

/-- A session with the skeleton at its other end. `outstanding` are the calls with an answer
still to be read from the socket, in the order of their requests. -/
structure Session where
  peer : Uid
  requests : List (Tagged Request)
  answers : List (Tagged Answer)
  skeleton : Phase
  outstanding : List CallId
  deriving DecidableEq

/-- A new connection. -/
def Session.new (peer : Uid) : Session := ⟨peer, [], [], .reading, []⟩

/-- How far a call to `Stub::send` has come; `src/core/trust/remote/posix.cpp:138–193`. -/
inductive Progress where
  | entered
  | timed (startTimeBeforeQuery : Int64)
  | resolved (session : SessionId) (startTimeBeforeQuery : Int64)
  | written (session : SessionId) (startTimeBeforeQuery : Int64)
  | answered (answer : Answer) (startTimeBeforeQuery : Int64)
  | finished (result : Except Exception Answer)

/-- What became of the request of a call. -/
inductive Fate where
  | unsent
  | queued (session : SessionId)
  | processing (session : SessionId)
  | computed (answer : Answer)
  deriving DecidableEq

/-- The stub and all that is connected to it. -/
structure State where
  sessions : SessionId → Session
  /-- the number of sessions -/
  accepted : Nat
  registry : Uid → Option SessionId
  /-- the number of outstanding accepts -/
  accepts : Nat
  calls : CallId → Progress
  fates : CallId → Fate

/-- The stub has just been created; `src/core/trust/remote/posix.cpp:92–104`. -/
def start : State where
  sessions _ := Session.new ⟨0⟩
  accepted := 0
  registry _ := none
  accepts := 1
  calls _ := .entered
  fates _ := .unsent

/-- How an asynchronous operation of boost::asio fails. -/
inductive AsyncError where
  | operationAborted
  | other
  deriving DecidableEq, Repr

/-- One step of a call, of the stub's acceptor or of a skeleton, with the outcomes of what it
calls. Errors of socket operations carry the value of their `error_code`. -/
inductive Label where
  | startTimeBeforeQuery (call : CallId) (outcome : Except Exception Int64)
  | resolveSession (call : CallId)
  | write (call : CallId) (ec : Option Int)
  | read (call : CallId) (ec : Option Int)
  | startTimeAfterQuery (call : CallId) (outcome : Except Exception Int64)
  | onNewSession (ec : Option AsyncError) (peer : Except Exception Uid)
  | onReadFinished (session : SessionId) (ec : Option AsyncError)
  | processIncomingRequest (session : SessionId) (config : Skeleton.Configuration PUnit)
  | writeAnswer (session : SessionId) (ec : Option Int)

/-- The errors that mean that the peer has gone away: access denied, broken pipe, connection
aborted, refused and reset; `src/core/trust/remote/posix.cpp:214–224`. -/
def peerGone (ec : Int) : Bool := ec ∈ [13, 32, 103, 111, 104]

namespace State

/-- A call goes on. -/
def goto (s : State) (call : CallId) (progress : Progress) : State :=
  { s with calls := Function.update s.calls call progress }

/-- A session changes. -/
def onSession (s : State) (k : SessionId) (session : Session) : State :=
  { s with sessions := Function.update s.sessions k session }

/-- The request of a call has come further. -/
def track (s : State) (call : CallId) (fate : Fate) : State :=
  { s with fates := Function.update s.fates call fate }

@[simp] theorem goto_sessions (s : State) (call : CallId) (progress : Progress) :
    (s.goto call progress).sessions = s.sessions := rfl

@[simp] theorem goto_calls (s : State) (call : CallId) (progress : Progress) :
    (s.goto call progress).calls = Function.update s.calls call progress := rfl

@[simp] theorem goto_fates (s : State) (call : CallId) (progress : Progress) :
    (s.goto call progress).fates = s.fates := rfl

@[simp] theorem onSession_sessions (s : State) (k : SessionId) (session : Session) :
    (s.onSession k session).sessions = Function.update s.sessions k session := rfl

@[simp] theorem onSession_calls (s : State) (k : SessionId) (session : Session) :
    (s.onSession k session).calls = s.calls := rfl

@[simp] theorem onSession_fates (s : State) (k : SessionId) (session : Session) :
    (s.onSession k session).fates = s.fates := rfl

@[simp] theorem track_sessions (s : State) (call : CallId) (fate : Fate) :
    (s.track call fate).sessions = s.sessions := rfl

@[simp] theorem track_calls (s : State) (call : CallId) (fate : Fate) :
    (s.track call fate).calls = s.calls := rfl

@[simp] theorem track_fates (s : State) (call : CallId) (fate : Fate) :
    (s.track call fate).fates = Function.update s.fates call fate := rfl

/-- `Registry::add_session_for_uid`; `src/core/trust/remote/posix.cpp:64–73`. -/
def addSessionForUid (s : State) (uid : Uid) (k : SessionId) : State :=
  { s with registry := Function.update s.registry uid (some k) }

/-- `Registry::remove_session_for_uid`; `src/core/trust/remote/posix.cpp:75–79`. -/
def removeSessionForUid (s : State) (uid : Uid) : State :=
  { s with registry := Function.update s.registry uid none }

/-- `Stub::handle_error_from_socket_operation_for_uid`, which always throws;
`src/core/trust/remote/posix.cpp:212–231`. -/
def handleErrorFromSocketOperationForUid (s : State) (call : CallId) (ec : Int) (uid : Uid) :
    State :=
  (if peerGone ec then s.removeSessionForUid uid else s).goto call
    (.finished (.error (.systemError ec)))

/-- `Stub::on_new_session`, which may leave by an exception of the credentials resolver;
`src/core/trust/remote/posix.cpp:195–210`. -/
def onNewSession (s : State) (ec : Option AsyncError) (peer : Except Exception Uid) : State :=
  match ec with
  | some .operationAborted => { s with accepts := s.accepts - 1 }
  | some .other => s
  | none =>
    match peer with
    | .error _ => { s with accepts := s.accepts - 1 }
    | .ok uid =>
      { (s.onSession s.accepted (Session.new uid)).addSessionForUid uid s.accepted with
        accepted := s.accepted + 1 }

/-- The request of a call is written to its session. -/
def send (s : State) (call : CallId) (k : SessionId) (request : Request) : State :=
  (s.onSession k
    { s.sessions k with
      requests := (s.sessions k).requests ++ [⟨call, request⟩]
      outstanding := (s.sessions k).outstanding ++ [call] }).track call (.queued k)

/-- The skeleton of a session goes on. -/
def onSkeleton (s : State) (k : SessionId) (phase : Phase) : State :=
  s.onSession k { s.sessions k with skeleton := phase }

@[simp] theorem handleErrorFromSocketOperationForUid_calls (s : State) (call : CallId) (ec : Int)
    (uid : Uid) : (s.handleErrorFromSocketOperationForUid call ec uid).calls =
      Function.update s.calls call (.finished (.error (.systemError ec))) := by
  rw [handleErrorFromSocketOperationForUid]
  split <;> rfl

@[simp] theorem handleErrorFromSocketOperationForUid_sessions (s : State) (call : CallId) (ec : Int)
    (uid : Uid) : (s.handleErrorFromSocketOperationForUid call ec uid).sessions = s.sessions := by
  rw [handleErrorFromSocketOperationForUid]
  split <;> rfl

@[simp] theorem handleErrorFromSocketOperationForUid_fates (s : State) (call : CallId) (ec : Int)
    (uid : Uid) : (s.handleErrorFromSocketOperationForUid call ec uid).fates = s.fates := by
  rw [handleErrorFromSocketOperationForUid]
  split <;> rfl

@[simp] theorem onNewSession_calls (s : State) (ec : Option AsyncError)
    (peer : Except Exception Uid) : (s.onNewSession ec peer).calls = s.calls := by
  cases ec with
  | some e => cases e <;> rfl
  | none => cases peer <;> rfl

@[simp] theorem onNewSession_fates (s : State) (ec : Option AsyncError)
    (peer : Except Exception Uid) : (s.onNewSession ec peer).fates = s.fates := by
  cases ec with
  | some e => cases e <;> rfl
  | none => cases peer <;> rfl

@[simp] theorem send_calls (s : State) (call : CallId) (k : SessionId) (request : Request) :
    (s.send call k request).calls = s.calls := rfl

@[simp] theorem send_fates (s : State) (call : CallId) (k : SessionId) (request : Request) :
    (s.send call k request).fates = Function.update s.fates call (.queued k) := rfl

@[simp] theorem onSkeleton_calls (s : State) (k : SessionId) (phase : Phase) :
    (s.onSkeleton k phase).calls = s.calls := rfl

@[simp] theorem onSkeleton_fates (s : State) (k : SessionId) (phase : Phase) :
    (s.onSkeleton k phase).fates = s.fates := rfl

end State

/-- One step. -/
def step (parameters : CallId → RequestParameters) (s : State) : Label → Option State
  | .startTimeBeforeQuery i outcome =>
    match s.calls i, outcome with
    | .entered, .ok time => some (s.goto i (.timed time))
    | .entered, .error e => some (s.goto i (.finished (.error e)))
    | _, _ => none
  | .resolveSession i =>
    match s.calls i with
    | .timed time =>
      match s.registry (parameters i).application.uid with
      | some k => some (s.goto i (.resolved k time))
      | none => some (s.goto i (.finished (.error .outOfRange)))
    | _ => none
  | .write i ec =>
    match s.calls i, ec with
    | .resolved k time, none => some ((s.send i k
        { appUid := (parameters i).application.uid
          appPid := (parameters i).application.pid
          feature := (parameters i).feature
          appStartTime := time }).goto i (.written k time))
    | .resolved _ _, some ec => some
        (s.handleErrorFromSocketOperationForUid i ec (parameters i).application.uid)
    | _, _ => none
  | .read i ec =>
    match s.calls i, ec with
    | .written k time, none =>
      match (s.sessions k).answers with
      | answer :: answers => some ((s.onSession k
          { s.sessions k with
            answers := answers
            outstanding := (s.sessions k).outstanding.tail }).goto i
              (.answered answer.value time))
      | [] => none
    | .written _ _, some ec => some
        (s.handleErrorFromSocketOperationForUid i ec (parameters i).application.uid)
    | _, _ => none
  | .startTimeAfterQuery i outcome =>
    match s.calls i, outcome with
    | .answered answer time, .ok time' =>
      if time ≠ time' then some (s.goto i (.finished (.error (.runtimeError
        ("Detected a spoofing attempt, process start times before" ++
          "and after authentication do not match.")))))
      else some (s.goto i (.finished (.ok answer)))
    | .answered _ _, .error e => some (s.goto i (.finished (.error e)))
    | _, _ => none
  | .onNewSession ec peer =>
    if s.accepts = 0 then none else some (s.onNewSession ec peer)
  | .onReadFinished k ec =>
    if s.accepted ≤ k then none
    else
      match (s.sessions k).skeleton, ec with
      | .reading, none =>
        match (s.sessions k).requests with
        | request :: requests => some ((s.onSession k
            { s.sessions k with
              requests := requests
              skeleton := .processing request }).track request.call (.processing k))
        | [] => none
      | .reading, some .operationAborted => some (s.onSkeleton k .idle)
      | .reading, some .other => some s
      | _, _ => none
  | .processIncomingRequest k config =>
    match (s.sessions k).skeleton with
    | .processing request =>
      match ((Skeleton.processIncomingRequest config request.value).exec ⟨⟩).1 with
      | .ok answer => some ((s.onSkeleton k (.writing ⟨request.call, answer⟩)).track request.call
          (.computed answer))
      | .error _ => some (s.onSkeleton k .idle)
    | _ => none
  | .writeAnswer k ec =>
    match (s.sessions k).skeleton, ec with
    | .writing answer, none => some (s.onSession k
        { s.sessions k with
          answers := (s.sessions k).answers ++ [answer]
          skeleton := .reading })
    | .writing _, some _ => some (s.onSkeleton k .idle)
    | _, _ => none

/-! ### What a step can do -/

/-- The steps, one constructor for each way in which one can end. -/
inductive Steps (parameters : CallId → RequestParameters) (s : State) : Label → State → Prop
  | startTimeBeforeQuery {i time} (hi : s.calls i = .entered) :
      Steps parameters s (.startTimeBeforeQuery i (.ok time)) (s.goto i (.timed time))
  | startTimeBeforeQueryThrows {i e} (hi : s.calls i = .entered) :
      Steps parameters s (.startTimeBeforeQuery i (.error e)) (s.goto i (.finished (.error e)))
  | resolveSession {i time k} (hi : s.calls i = .timed time)
      (hk : s.registry (parameters i).application.uid = some k) :
      Steps parameters s (.resolveSession i) (s.goto i (.resolved k time))
  | resolveSessionThrows {i time} (hi : s.calls i = .timed time)
      (hk : s.registry (parameters i).application.uid = none) :
      Steps parameters s (.resolveSession i) (s.goto i (.finished (.error .outOfRange)))
  | write {i k time} (hi : s.calls i = .resolved k time) :
      Steps parameters s (.write i none) ((s.send i k
        { appUid := (parameters i).application.uid
          appPid := (parameters i).application.pid
          feature := (parameters i).feature
          appStartTime := time }).goto i (.written k time))
  | writeFails {i k time ec} (hi : s.calls i = .resolved k time) :
      Steps parameters s (.write i (some ec))
        (s.handleErrorFromSocketOperationForUid i ec (parameters i).application.uid)
  | read {i k time answer answers} (hi : s.calls i = .written k time)
      (hanswers : (s.sessions k).answers = answer :: answers) :
      Steps parameters s (.read i none) ((s.onSession k
        { s.sessions k with
          answers := answers
          outstanding := (s.sessions k).outstanding.tail }).goto i (.answered answer.value time))
  | readFails {i k time ec} (hi : s.calls i = .written k time) :
      Steps parameters s (.read i (some ec))
        (s.handleErrorFromSocketOperationForUid i ec (parameters i).application.uid)
  | startTimeAfterQuery {i answer time} (hi : s.calls i = .answered answer time) :
      Steps parameters s (.startTimeAfterQuery i (.ok time)) (s.goto i (.finished (.ok answer)))
  | startTimeAfterQueryDiffers {i answer time time'} (hi : s.calls i = .answered answer time)
      (htime : time ≠ time') :
      Steps parameters s (.startTimeAfterQuery i (.ok time')) (s.goto i (.finished (.error
        (.runtimeError ("Detected a spoofing attempt, process start times before" ++
          "and after authentication do not match.")))))
  | startTimeAfterQueryThrows {i answer time e} (hi : s.calls i = .answered answer time) :
      Steps parameters s (.startTimeAfterQuery i (.error e)) (s.goto i (.finished (.error e)))
  | onNewSession {ec peer} (haccepts : s.accepts ≠ 0) :
      Steps parameters s (.onNewSession ec peer) (s.onNewSession ec peer)
  | onReadFinished {k request requests} (hk : k < s.accepted)
      (hskeleton : (s.sessions k).skeleton = .reading)
      (hrequests : (s.sessions k).requests = request :: requests) :
      Steps parameters s (.onReadFinished k none) ((s.onSession k
        { s.sessions k with
          requests := requests
          skeleton := .processing request }).track request.call (.processing k))
  | onReadAborted {k} (hk : k < s.accepted) (hskeleton : (s.sessions k).skeleton = .reading) :
      Steps parameters s (.onReadFinished k (some .operationAborted)) (s.onSkeleton k .idle)
  | onReadFails {k} (hk : k < s.accepted) (hskeleton : (s.sessions k).skeleton = .reading) :
      Steps parameters s (.onReadFinished k (some .other)) s
  | processIncomingRequest {k config request answer}
      (hskeleton : (s.sessions k).skeleton = .processing request)
      (hanswer : ((Skeleton.processIncomingRequest config request.value).exec ⟨⟩).1 = .ok answer) :
      Steps parameters s (.processIncomingRequest k config)
        ((s.onSkeleton k (.writing ⟨request.call, answer⟩)).track request.call (.computed answer))
  | processIncomingRequestThrows {k config request e}
      (hskeleton : (s.sessions k).skeleton = .processing request)
      (hthrows : ((Skeleton.processIncomingRequest config request.value).exec ⟨⟩).1 = .error e) :
      Steps parameters s (.processIncomingRequest k config) (s.onSkeleton k .idle)
  | writeAnswer {k answer} (hskeleton : (s.sessions k).skeleton = .writing answer) :
      Steps parameters s (.writeAnswer k none) (s.onSession k
        { s.sessions k with
          answers := (s.sessions k).answers ++ [answer]
          skeleton := .reading })
  | writeAnswerFails {k answer ec} (hskeleton : (s.sessions k).skeleton = .writing answer) :
      Steps parameters s (.writeAnswer k (some ec)) (s.onSkeleton k .idle)

/-- A step ends in one of these ways. -/
theorem steps_of_step {parameters : CallId → RequestParameters} {s t : State} {label : Label}
    (h : step parameters s label = some t) : Steps parameters s label t := by
  cases label with
  | startTimeBeforeQuery i outcome =>
    simp only [step] at h
    split at h
    next hi => cases h; exact .startTimeBeforeQuery hi
    next hi => cases h; exact .startTimeBeforeQueryThrows hi
    next => cases h
  | resolveSession i =>
    simp only [step] at h
    split at h
    next hi =>
      split at h
      next hk => cases h; exact .resolveSession hi hk
      next hk => cases h; exact .resolveSessionThrows hi hk
    next => cases h
  | write i ec =>
    simp only [step] at h
    split at h
    next hi => cases h; exact .write hi
    next hi => cases h; exact .writeFails hi
    next => cases h
  | read i ec =>
    simp only [step] at h
    split at h
    next hi =>
      split at h
      next hanswers => cases h; exact .read hi hanswers
      next => cases h
    next hi => cases h; exact .readFails hi
    next => cases h
  | startTimeAfterQuery i outcome =>
    simp only [step] at h
    split at h
    next hi =>
      split at h
      next htime => cases h; exact .startTimeAfterQueryDiffers hi htime
      next htime =>
        cases h
        rw [not_not] at htime
        subst htime
        exact .startTimeAfterQuery hi
    next hi => cases h; exact .startTimeAfterQueryThrows hi
    next => cases h
  | onNewSession ec peer =>
    simp only [step] at h
    split at h
    next => cases h
    next haccepts => cases h; exact .onNewSession haccepts
  | onReadFinished k ec =>
    simp only [step] at h
    split at h
    next => cases h
    next hk =>
      rw [Nat.not_le] at hk
      split at h
      next hskeleton =>
        split at h
        next hrequests => cases h; exact .onReadFinished hk hskeleton hrequests
        next => cases h
      next hskeleton => cases h; exact .onReadAborted hk hskeleton
      next hskeleton => cases h; exact .onReadFails hk hskeleton
      next => cases h
  | processIncomingRequest k config =>
    simp only [step] at h
    split at h
    next hskeleton =>
      split at h
      next hanswer => cases h; exact .processIncomingRequest hskeleton hanswer
      next hthrows => cases h; exact .processIncomingRequestThrows hskeleton hthrows
    next => cases h
  | writeAnswer k ec =>
    simp only [step] at h
    split at h
    next hskeleton => cases h; exact .writeAnswer hskeleton
    next hskeleton => cases h; exact .writeAnswerFails hskeleton
    next => cases h

end TrustStore.Remote.Posix
