import TrustStore.Agents.Cached

/-!
# The three steps of a cached request

Splits `CachedAgent::authenticate_request_with_parameters` and `process_trust_request` where
other callers may come in between: run the query, ask the agent, add the answer. Both
functions are these steps in a row.
-/

namespace TrustStore

open TrustStore.Base

variable {σ κ : Type}

/-- The two functions that cache answers. -/
inductive Caching where
  | cachedAgent
  | processTrustRequest
  deriving DecidableEq, Repr

/-- Run the query: the answer it finds, with the query that stays alive until the call ends.
`CachedAgent` reads the current request once more after it was reported. -/
def runQuery (caching : Caching) (store : Store σ κ) (applicationId : String)
    (feature : Feature) : Action σ (κ × Option Answer) := do
  let query ← store.query
  Fallible.onError (do
    match ← store.lookup query applicationId feature with
    | some request =>
      match caching with
      | .cachedAgent => return (query, some (← store.current query).answer)
      | .processTrustRequest => return (query, some request.answer)
    | none => return (query, none)) (store.destroy query)

/-- Ask the agent, while the query is alive. -/
def askAgent (agent : Agent σ) (store : Store σ κ) (query : κ) (params : RequestParameters) :
    Action σ Answer :=
  Fallible.onError (agent params) (store.destroy query)

/-- Add the answer, and end the call. -/
def addAnswer (store : Store σ κ) (query : κ) (request : Request) : Action σ Unit :=
  Fallible.guarded (store.add request) (store.destroy query)

/-- The three steps in a row. -/
def inSteps (caching : Caching) (agent : Agent σ) (store : Store σ κ) (now : Timestamp)
    (params : RequestParameters) : Action σ Answer := do
  match ← runQuery caching store params.application.id params.feature with
  | (query, some answer) =>
    modify (store.destroy query)
    return answer
  | (query, none) =>
    let answer ← askAgent agent store query params
    addAnswer store query
      { origin := params.application.id
        feature := params.feature
        when := now
        answer := answer }
    return answer

/-- Where the query stays alive until the answer is added, the last two steps are taken. -/
private theorem guarded_askAgent (agent : Agent σ) (store : Store σ κ) (query : κ)
    (now : Timestamp) (params : RequestParameters) :
    Fallible.guarded (do
        let answer ← agent params
        store.add ⟨params.application.id, params.feature, now, answer⟩
        return answer) (store.destroy query) = do
      let answer ← askAgent agent store query params
      addAnswer store query ⟨params.application.id, params.feature, now, answer⟩
      return answer := by
  rw [Fallible.guarded_bind]
  congr 1
  funext answer
  exact Fallible.guarded_bind_pure _ _ _

/-- Where the query stays alive until the call ends, the three steps are taken, whatever is
returned for a request that was found. -/
private theorem guarded_inSteps (agent : Agent σ) (store : Store σ κ) (now : Timestamp)
    (params : RequestParameters) (query : κ) (found : Request → Action σ Answer) :
    Fallible.guarded (do
        match ← store.lookup query params.application.id params.feature with
        | some request => found request
        | none =>
          let answer ← agent params
          store.add ⟨params.application.id, params.feature, now, answer⟩
          return answer) (store.destroy query) = do
      match ← Fallible.onError (do
          match ← store.lookup query params.application.id params.feature with
          | some request =>
            let answer ← found request
            return (query, some answer)
          | none => return (query, none)) (store.destroy query) with
      | (query, some answer) =>
        modify (store.destroy query)
        return answer
      | (query, none) =>
        let answer ← askAgent agent store query params
        addAnswer store query ⟨params.application.id, params.feature, now, answer⟩
        return answer := by
  rw [Fallible.guarded_bind]
  apply Fallible.ext
  intro s
  rcases hlookup : (store.lookup query params.application.id params.feature).exec s with
    ⟨_ | _ | request, t⟩
  · simp [hlookup]
  · have hsteps := guarded_askAgent agent store query now params
    simp only [Fallible.exec_bind, Fallible.exec_onError, hlookup, Fallible.exec_pure]
    rw [hsteps]
    simp only [Fallible.exec_bind, Fallible.exec_pure]
  · simp only [Fallible.exec_bind, Fallible.exec_onError, hlookup]
    rcases hfound : (found request).exec t with ⟨_ | answer, u⟩ <;> simp [hfound, Except.map]

/-- `CachedAgent` takes the three steps. -/
theorem authenticate_inSteps (agent : Agent σ) (store : Store σ κ) (now : Timestamp)
    (params : RequestParameters) :
    CachedAgent.authenticateRequestWithParameters agent store CachedAgent.Reporter.silent
      (pure now) params = inSteps .cachedAgent agent store now params := by
  have hsteps := fun query => guarded_inSteps agent store now params query
    fun _ => do return (← store.current query).answer
  simp only [bind_assoc, pure_bind] at hsteps
  simp only [CachedAgent.authenticateRequestWithParameters, inSteps, runQuery,
    CachedAgent.Reporter.silent, pure_bind, bind_assoc]
  congr 1
  funext query
  exact hsteps query

/-- `process_trust_request` takes the three steps. -/
theorem processTrustRequest_inSteps (agent : Agent σ) (store : Store σ κ) (now : Timestamp)
    (params : RequestParameters) :
    processTrustRequest
      { agent := some agent
        store := some store
        applicationUid := params.application.uid
        applicationPid := params.application.pid
        applicationId := params.application.id
        feature := params.feature
        description := params.description
        now := pure now } = inSteps .processTrustRequest agent store now params := by
  have hsteps := fun query => guarded_inSteps agent store now params query
    fun request => return request.answer
  simp only [pure_bind] at hsteps
  simp only [processTrustRequest, inSteps, runQuery, pure_bind, bind_assoc]
  congr 1
  funext query
  exact hsteps query

end TrustStore
