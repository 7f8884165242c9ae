import TrustStore.Core.Agent
import TrustStore.Dbus.Codec

/-!
# An agent on the bus

Models `dbus::Agent::Stub` and `dbus::Agent::Skeleton`, `src/core/trust/dbus/agent.cpp:47–91`: a
request travels as a message to an agent behind an object on the bus, and its answer or an error
travels back. The agent goes on even if nobody waits for its answer any more.
-/

namespace TrustStore.Dbus.Agent

open TrustStore.Base

/-- `Errors::CouldNotDetermineConclusiveAnswer::name`; `src/core/trust/dbus/agent.h:48–56`. -/
def couldNotDetermineConclusiveAnswer : String :=
  "core.trust.dbus.Agent.Errors.CouldNotDetermineConclusiveAnswer"

/-- The messages sent in reply to a request. -/
inductive Reply where
  | methodReturn (content : Message)
  | error (name what : String)
  deriving DecidableEq, Repr

/-- What a caller sees of the bus besides the replies of the agent. -/
structure Bus where
  /-- `core::dbus::Error::print` -/
  print : String → String → String
  /-- the error of a call without a reply, once it has timed out -/
  noReply : String

/-- What becomes of a call on the bus: it gets its reply, or it ends with an error of the bus, for
which the request may have come to the agent or not. -/
inductive Delivery where
  | replied
  | timedOut
  | undelivered (what : String)
  deriving DecidableEq, Repr

/-- The request comes to the agent. -/
def Delivery.reaches : Delivery → Bool
  | .replied | .timedOut => true
  | .undelivered _ => false

variable {σ α : Type}

namespace Skeleton

/-- The handler of `AuthenticateRequestWithParameters`, whose `try` block begins behind the reading
of the parameters; `src/core/trust/dbus/agent.cpp:66–85`. -/
def handle (agent : Agent σ) (msg : Message) : Action σ Reply := do
  let params ← Fallible.ofFn fun s =>
    (((Codec.decode : Reader RequestParameters).exec msg).1, s)
  tryCatch (do return .methodReturn (Codec.encode (← agent params)))
    fun _ => return .error couldNotDetermineConclusiveAnswer ""

end Skeleton

namespace Stub

variable (bus : Bus)

/-- The result of `transact_method`, once the handler is through, where an error of the result is
thrown; `src/core/trust/dbus/agent.cpp:55–61`. An exception that leaves the handler ends up in the
bus, and no reply is sent in its place. -/
def value : Except Exception Reply → Except Exception Answer
  | .ok (.methodReturn content) => ((Codec.decode : Reader Answer).exec content).1
  | .ok (.error name what) => .error (.runtimeError (bus.print name what))
  | .error _ => .error (.runtimeError bus.noReply)

/-- `Stub::authenticate_request_with_parameters`; `src/core/trust/dbus/agent.cpp:47–61`. -/
def authenticateRequestWithParameters (agent : Agent σ) (delivery : Delivery) : Agent σ :=
  fun parameters => Fallible.ofFn fun s =>
    let handled := (Skeleton.handle agent (Codec.encode parameters)).exec s
    match delivery with
    | .replied => (value bus handled.1, handled.2)
    | .timedOut => (.error (.runtimeError bus.noReply), handled.2)
    | .undelivered what => (.error (.runtimeError what), s)

end Stub

/-- The error that an exception of the agent comes back as. -/
def couldNotDetermine (bus : Bus) : Exception :=
  .runtimeError (bus.print couldNotDetermineConclusiveAnswer "")

/-- The outcome of an agent as it comes back from the bus. -/
def carried (bus : Bus) : Except Exception Answer → Except Exception Answer
  | .ok answer => .ok answer
  | .error _ => .error (couldNotDetermine bus)

variable {bus : Bus} {agent : Agent σ} {parameters : RequestParameters} {s t : σ}
  {result : Except Exception Answer}

/-- The handler of a request that was encoded asks the agent for it, and always replies. -/
theorem Skeleton.handle_exec (h : (agent parameters).exec s = (result, t)) :
    (Skeleton.handle agent (Codec.encode parameters)).exec s =
      (.ok (match result with
        | .ok answer => .methodReturn (Codec.encode answer)
        | .error _ => .error couldNotDetermineConclusiveAnswer ""), t) := by
  rw [Skeleton.handle, Fallible.exec_bind, Fallible.exec_ofFn, decode_encode]
  simp only [Fallible.exec_tryCatch, Fallible.exec_bind, h]
  cases result <;> rfl

/-- A request that gets its reply is answered as the agent behind the bus does. -/
theorem Stub.replied_exec (h : (agent parameters).exec s = (result, t)) :
    (Stub.authenticateRequestWithParameters bus agent .replied parameters).exec s =
      (carried bus result, t) := by
  rw [Stub.authenticateRequestWithParameters, Fallible.exec_ofFn, Skeleton.handle_exec h]
  cases result with
  | error e => rfl
  | ok answer => simp only [Stub.value, decode_encode, carried]

/-- A request that times out reaches the agent all the same. -/
theorem Stub.timedOut_exec (h : (agent parameters).exec s = (result, t)) :
    (Stub.authenticateRequestWithParameters bus agent .timedOut parameters).exec s =
      (.error (.runtimeError bus.noReply), t) := by
  rw [Stub.authenticateRequestWithParameters, Fallible.exec_ofFn, Skeleton.handle_exec h]

/-- A request that is not delivered leaves the agent alone. -/
theorem Stub.undelivered_exec (bus : Bus) (agent : Agent σ) (what : String)
    (parameters : RequestParameters) (s : σ) :
    (Stub.authenticateRequestWithParameters bus agent (.undelivered what) parameters).exec s =
      (.error (.runtimeError what), s) := rfl

/-! ### Many requests -/

/-- The outcomes of requests that are made one after another, and what the agent leaves behind. -/
def asks (ask : α → Action σ Answer) : List α → σ → List (Except Exception Answer) × σ
  | [], s => ([], s)
  | request :: requests, s =>
    let outcome := (ask request).exec s
    let rest := asks ask requests outcome.2
    (outcome.1 :: rest.1, rest.2)

/-- The requests that come to the agent. -/
def arrived (calls : List (RequestParameters × Delivery)) : List RequestParameters :=
  (calls.filter fun call => call.2.reaches).map Prod.fst

/-- What the callers get back, given the outcomes of the requests that came to the agent. -/
def returned (bus : Bus) : List (RequestParameters × Delivery) → List (Except Exception Answer) →
    List (Except Exception Answer)
  | [], _ => []
  | (_, .replied) :: calls, outcome :: outcomes =>
    carried bus outcome :: returned bus calls outcomes
  | (_, .timedOut) :: calls, _ :: outcomes =>
    .error (.runtimeError bus.noReply) :: returned bus calls outcomes
  | (_, .undelivered what) :: calls, outcomes =>
    .error (.runtimeError what) :: returned bus calls outcomes
  | (_, .replied) :: _, [] | (_, .timedOut) :: _, [] => []

/-- Whatever becomes of calls on the bus, and whatever agent is behind it: the agent is asked what
arrives, with all parameters as they were, in order and once each. Every caller who gets a reply
gets the agent's answer, or the one error for all of its exceptions, and every other one an
error. -/
theorem calls_refine (bus : Bus) (agent : Agent σ) (calls : List (RequestParameters × Delivery))
    (s : σ) :
    asks (fun call => Stub.authenticateRequestWithParameters bus agent call.2 call.1) calls s =
      (returned bus calls (asks agent (arrived calls) s).1, (asks agent (arrived calls) s).2) := by
  induction calls generalizing s with
  | nil => rfl
  | cons call calls ih =>
    obtain ⟨parameters, delivery⟩ := call
    cases delivery with
    | replied =>
      rcases hasked : (agent parameters).exec s with ⟨outcome, t⟩
      have harrived : arrived ((parameters, .replied) :: calls) = parameters :: arrived calls := rfl
      simp only [asks, Stub.replied_exec hasked, ih, harrived, hasked, returned]
    | timedOut =>
      rcases hasked : (agent parameters).exec s with ⟨outcome, t⟩
      have harrived :
          arrived ((parameters, .timedOut) :: calls) = parameters :: arrived calls := rfl
      simp only [asks, Stub.timedOut_exec hasked, ih, harrived, hasked, returned]
    | undelivered what =>
      have harrived : arrived ((parameters, .undelivered what) :: calls) = arrived calls := rfl
      simp only [asks, Stub.undelivered_exec, ih, harrived, returned]

end TrustStore.Dbus.Agent
