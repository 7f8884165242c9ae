import TrustStore.Base.Transition
import TrustStore.Core.Agent
import Mathlib.Logic.Function.Basic

/-!
# The registry of agents over the bus

Models `dbus::AgentRegistry::Stub` and `dbus::AgentRegistry::Skeleton`,
`src/core/trust/dbus/agent_registry.h`: any number of stubs whose threads register and unregister
agents with one skeleton. A stub announces the object path under which it serves an agent, and
keeps the object alive in a registry of its own once the skeleton has replied. Messages between
two peers arrive once and in order, and the calls that wait for replies go on in any order.
-/

namespace TrustStore.Dbus.AgentRegistry

open TrustStore.Base

/-- `LockingAgentRegistry`, with agents of any type;
`src/core/trust/dbus/agent_registry.h:33–68`. -/
abbrev LockingAgentRegistry (α : Type) := Uid → Option α

namespace LockingAgentRegistry

variable {α : Type}

/-- `LockingAgentRegistry::register_agent_for_user`;
`src/core/trust/dbus/agent_registry.h:37–41`. -/
def registerAgentForUser (registry : LockingAgentRegistry α) (uid : Uid) (agent : α) :
    LockingAgentRegistry α :=
  Function.update registry uid (some agent)

/-- `LockingAgentRegistry::unregister_agent_for_user`;
`src/core/trust/dbus/agent_registry.h:43–47`. -/
def unregisterAgentForUser (registry : LockingAgentRegistry α) (uid : Uid) :
    LockingAgentRegistry α :=
  Function.update registry uid none

/-- `LockingAgentRegistry::has_agent_for_user`;
`src/core/trust/dbus/agent_registry.h:50–55`. -/
def hasAgentForUser (registry : LockingAgentRegistry α) (uid : Uid) : Bool :=
  (registry uid).isSome

/-- `LockingAgentRegistry::agent_for_user`; `src/core/trust/dbus/agent_registry.h:57–63`. -/
def agentForUser (registry : LockingAgentRegistry α) (uid : Uid) : Except Exception α :=
  match registry uid with
  | some agent => .ok agent
  | none => .error .outOfRange

end LockingAgentRegistry

/-- Names for stubs. -/
abbrev StubId := Nat

/-- Names for calls, each of them made once. The object that serves the agent of a registration
goes by the name of its call. -/
abbrev CallId := Nat

/-- `Stub::counting_object_path_generator`, with the value of its counter;
`src/core/trust/dbus/agent_registry.h:122–129`. -/
def countingObjectPathGenerator (counter : Nat) : String :=
  "/core/trust/dbus/Agent/" ++ toString counter

/-- The functions of a stub. Registrations come with the object path that the generator makes;
`src/core/trust/dbus/agent_registry.h:152–235`. -/
inductive Method where
  | registerAgentForUser (path : String)
  | registerAgentForUserAsync (path : String)
  | unregisterAgentForUser
  deriving DecidableEq, Repr

/-- A call of a stub, whose connection to the bus has the name `sender`. -/
structure Call where
  stub : StubId
  sender : String
  method : Method
  uid : Uid
  deriving DecidableEq, Repr

/-- An object on the bus: `dbus::Agent::Stub` as the skeleton makes it from a registration;
`src/core/trust/dbus/agent_registry.h:268–279`. -/
structure AgentStub where
  service : String
  path : String
  deriving DecidableEq, Repr

/-- The object that a call announces. -/
def Call.announces (call : Call) : Option AgentStub :=
  match call.method with
  | .registerAgentForUser path | .registerAgentForUserAsync path => some ⟨call.sender, path⟩
  | .unregisterAgentForUser => none

namespace Skeleton

/-- The handlers for `RegisterAgentForUser` and `UnregisterAgentForUser`, where `sent` says whether
the bus sent the reply. The registry behind the skeleton does not throw;
`src/core/trust/dbus/agent_registry.h:263–338`. -/
def handle (impl : LockingAgentRegistry AgentStub) (call : Call) (sent : Bool) :
    LockingAgentRegistry AgentStub :=
  match call.announces with
  | some agent =>
    let impl := impl.registerAgentForUser call.uid agent
    if sent then impl else impl.unregisterAgentForUser call.uid
  | none => impl.unregisterAgentForUser call.uid

end Skeleton

namespace Stub

/-- How a call goes on with the result of its transaction: what its caller gets, and the local
registry if it is updated. A registration that is made asynchronously prints its error;
`src/core/trust/dbus/agent_registry.h:171–180,203–217,224–234`. -/
def finish (registry : LockingAgentRegistry CallId) (c : CallId) (call : Call)
    (result : Except String Unit) :
    Except Exception Unit × Option (LockingAgentRegistry CallId) :=
  match call.method, result with
  | .registerAgentForUser _, .ok _ => (.ok (), some (registry.registerAgentForUser call.uid c))
  | .registerAgentForUser _, .error text => (.error (.runtimeError text), none)
  | .registerAgentForUserAsync _, .ok _ =>
    (.ok (), some (registry.registerAgentForUser call.uid c))
  | .registerAgentForUserAsync _, .error _ => (.ok (), none)
  | .unregisterAgentForUser, .ok _ => (.ok (), some (registry.unregisterAgentForUser call.uid))
  | .unregisterAgentForUser, .error text =>
    (.error (.runtimeError text), some (registry.unregisterAgentForUser call.uid))

/-- A registration that succeeded puts its object into the local registry, one that failed leaves
it alone, and everything else takes the object of the user out. -/
theorem finish_registry (registry : LockingAgentRegistry CallId) (c : CallId) (call : Call)
    (result : Except String Unit) : (finish registry c call result).2 =
      match call.announces, result with
      | some _, .ok _ => some (registry.registerAgentForUser call.uid c)
      | some _, .error _ => none
      | none, _ => some (registry.unregisterAgentForUser call.uid) := by
  obtain ⟨stub, sender, method, uid⟩ := call
  cases method <;> cases result <;> rfl

/-- The objects of other users stay where they are. -/
theorem finish_other {registry registry' : LockingAgentRegistry CallId} {c : CallId} {call : Call}
    {result : Except String Unit} (h : (finish registry c call result).2 = some registry')
    {uid : Uid} (huid : uid ≠ call.uid) : registry' uid = registry uid := by
  rw [finish_registry] at h
  cases hannounces : call.announces with
  | none =>
    simp only [hannounces, Option.some.injEq] at h
    rw [← h, LockingAgentRegistry.unregisterAgentForUser, Function.update_of_ne huid]
  | some agent =>
    cases result with
    | error text => simp [hannounces] at h
    | ok value =>
      simp only [hannounces, Option.some.injEq] at h
      rw [← h, LockingAgentRegistry.registerAgentForUser, Function.update_of_ne huid]

end Stub

/-- How far a call has come. `turn` counts the messages that the skeleton has handled before, and
`updated` the updates of local registries before its own, if it made one. -/
inductive Progress where
  | idle
  | requested
  /-- the reply is on the bus -/
  | answered (turn : Nat)
  /-- the reply could not be sent -/
  | unanswered (turn : Nat)
  /-- the caller is about to go on, or the callback to be called -/
  | returned (turn : Nat) (result : Except String Unit)
  | finished (turn : Nat) (updated : Option Nat) (outcome : Except Exception Unit)

/-- The stubs, the skeleton and the bus between them. -/
structure State where
  impl : LockingAgentRegistry AgentStub
  lockingAgentRegistry : StubId → LockingAgentRegistry CallId
  requests : StubId → List CallId
  replies : StubId → List CallId
  progress : CallId → Progress
  /-- the number of messages that the skeleton has handled -/
  handled : Nat
  /-- the number of updates of local registries -/
  updates : Nat

/-- Nothing is registered. -/
def start : State where
  impl _ := none
  lockingAgentRegistry _ _ := none
  requests _ := []
  replies _ := []
  progress _ := .idle
  handled := 0
  updates := 0

/-- One step of a call, of the bus or of the skeleton. -/
inductive Label where
  | invoke (call : CallId)
  | handle (stub : StubId) (sent : Bool)
  | reply (stub : StubId)
  | timeOut (call : CallId) (text : String)
  | finish (call : CallId)
  deriving DecidableEq, Repr

/-- One step. A call constructs the object for its agent and sends a message; the skeleton handles
the oldest message of a stub; the oldest reply reaches the stub; a call whose reply was not sent
times out; a call goes on with its result. -/
def step (calls : CallId → Call) (s : State) : Label → Option State
  | .invoke c =>
    match s.progress c with
    | .idle => some
        { s with
          requests := Function.update s.requests (calls c).stub (s.requests (calls c).stub ++ [c])
          progress := Function.update s.progress c .requested }
    | _ => none
  | .handle p sent =>
    match s.requests p with
    | c :: rest => some
        { s with
          impl := Skeleton.handle s.impl (calls c) sent
          requests := Function.update s.requests p rest
          replies := if sent then Function.update s.replies p (s.replies p ++ [c]) else s.replies
          progress := Function.update s.progress c
            (if sent then .answered s.handled else .unanswered s.handled)
          handled := s.handled + 1 }
    | [] => none
  | .reply p =>
    match s.replies p with
    | c :: rest =>
      match s.progress c with
      | .answered turn => some
          { s with
            replies := Function.update s.replies p rest
            progress := Function.update s.progress c (.returned turn (.ok ())) }
      | _ => none
    | [] => none
  | .timeOut c text =>
    match s.progress c with
    | .unanswered turn => some
        { s with progress := Function.update s.progress c (.returned turn (.error text)) }
    | _ => none
  | .finish c =>
    match s.progress c with
    | .returned turn result =>
      match Stub.finish (s.lockingAgentRegistry (calls c).stub) c (calls c) result with
      | (outcome, some registry) => some
          { s with
            lockingAgentRegistry :=
              Function.update s.lockingAgentRegistry (calls c).stub registry
            progress := Function.update s.progress c (.finished turn (some s.updates) outcome)
            updates := s.updates + 1 }
      | (outcome, none) => some
          { s with progress := Function.update s.progress c (.finished turn none outcome) }
    | _ => none

end TrustStore.Dbus.AgentRegistry
