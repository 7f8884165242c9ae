import TrustStore.Core.Request

/-!
# Agents

Models `include/core/trust/agent.h`. An agent may be stateful and may throw, so it is a
fallible computation over a state of the caller's choice.
-/

namespace TrustStore

open TrustStore.Base

/-- The application behind a request; `include/core/trust/agent.h:67–76`. -/
structure Application where
  uid : Uid
  pid : Pid
  id : String
  deriving DecidableEq, Repr

/-- All parameters of a trust request; `include/core/trust/agent.h:64–81`. -/
structure RequestParameters where
  application : Application
  feature : Feature
  description : String
  deriving DecidableEq, Repr

/-- Computations of the library over a state `σ`. -/
abbrev Action (σ : Type) : Type → Type := Fallible Exception σ

/-- `Agent::authenticate_request_with_parameters`; `include/core/trust/agent.h:83–87`. -/
abbrev Agent (σ : Type) := RequestParameters → Action σ Answer

end TrustStore
