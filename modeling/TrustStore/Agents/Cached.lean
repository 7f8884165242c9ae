import TrustStore.Core.Store

/-!
# Prompting at most once

Models `CachedAgent`, `src/core/trust/cached_agent.cpp`, and `process_trust_request`,
`src/core/trust/request.cpp:36–72`: look for an answer in the store, otherwise prompt the
user and add the answer. The query lives until the call ends, however it ends.
-/

namespace TrustStore

open TrustStore.Base

variable {σ κ : Type}

namespace CachedAgent

/-- `CachedAgent::Reporter`; `include/core/trust/cached_agent.h:36–48`. -/
structure Reporter (σ : Type) where
  reportCachedAnswerFound : RequestParameters → Request → Action σ Unit
  reportUserPromptedForTrust : RequestParameters → Answer → Action σ Unit

/-- The reporter of the base class, which does nothing;
`src/core/trust/cached_agent.cpp:22–28`. -/
def Reporter.silent : Reporter σ where
  reportCachedAnswerFound _ _ := return
  reportUserPromptedForTrust _ _ := return

/-- `CachedAgent::Configuration`, where a missing pointer is `none`, with the reading of the
wall clock; `include/core/trust/cached_agent.h:50–59`. -/
structure Configuration (σ κ : Type) where
  agent : Option (Agent σ)
  store : Option (Store σ κ)
  reporter : Reporter σ
  now : Action σ Timestamp

/-- `CachedAgent::authenticate_request_with_parameters`, given its agent and its store;
`src/core/trust/cached_agent.cpp:47–91`. -/
def authenticateRequestWithParameters (agent : Agent σ) (store : Store σ κ)
    (reporter : Reporter σ) (now : Action σ Timestamp) : Agent σ := fun params => do
  let query ← store.query
  Fallible.guarded (do
    match ← store.lookup query params.application.id params.feature with
    | some request =>
      reporter.reportCachedAnswerFound params request
      return (← store.current query).answer
    | none =>
      let answer ← agent
        { application :=
            { uid := params.application.uid
              pid := params.application.pid
              id := params.application.id }
          feature := params.feature
          description := params.description }
      reporter.reportUserPromptedForTrust params answer
      store.add
        { origin := params.application.id
          feature := params.feature
          when := ← now
          answer := answer }
      return answer) (store.destroy query)

/-- `CachedAgent::CachedAgent`, which verifies its parameters;
`src/core/trust/cached_agent.cpp:30–44`. -/
def create (configuration : Configuration σ κ) : Except Exception (Agent σ) :=
  match configuration.agent, configuration.store with
  | none, _ => .error (.logicError "Cannot operate without an agent implementation.")
  | some _, none => .error (.logicError "Cannot operate without a store implementation.")
  | some agent, some store =>
    .ok (authenticateRequestWithParameters agent store configuration.reporter configuration.now)

end CachedAgent

/-- The parameters of `process_trust_request`, with the reading of the wall clock;
`include/core/trust/request.h:104–121`. -/
structure TrustRequest (σ κ : Type) where
  agent : Option (Agent σ)
  store : Option (Store σ κ)
  applicationUid : Uid
  applicationPid : Pid
  applicationId : String
  feature : Feature
  description : String
  now : Action σ Timestamp

/-- `process_trust_request`; `src/core/trust/request.cpp:36–72`. -/
def processTrustRequest (params : TrustRequest σ κ) : Action σ Answer := do
  let some agent := params.agent
    | throw (.logicError "Cannot operate without an agent implementation.")
  let some store := params.store
    | throw (.logicError "Cannot operate without a store implementation.")
  let query ← store.query
  Fallible.guarded (do
    match ← store.lookup query params.applicationId params.feature with
    | some request => return request.answer
    | none =>
      let answer ← agent
        { application :=
            { uid := params.applicationUid
              pid := params.applicationPid
              id := params.applicationId }
          feature := params.feature
          description := params.description }
      store.add
        { origin := params.applicationId
          feature := params.feature
          when := ← params.now
          answer := answer }
      return answer) (store.destroy query)

end TrustStore
