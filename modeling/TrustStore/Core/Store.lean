import TrustStore.Core.Agent

/-!
# The store interface

Models the abstract classes `Store` and `Store::Query` of `include/core/trust/store.h`.
An implementation works on a state `σ` that holds the store and every query made on
it; a query is named by a handle of type `κ`, as a `shared_ptr` names it in the source.
-/

namespace TrustStore

/-- `Store::Query::Status`; `include/core/trust/store.h:116–123`. -/
inductive Status where
  | armed
  | hasMoreResults
  | eor
  | error
  deriving DecidableEq, Repr, Inhabited

/-- `Store` and `Store::Query`; `include/core/trust/store.h:55–190`. -/
structure Store (σ κ : Type) where
  /-- `Store::reset` -/
  reset : Action σ Unit
  /-- `Store::add` -/
  add : Request → Action σ Unit
  /-- `Store::remove_application` -/
  removeApplication : String → Action σ Unit
  /-- `Store::query` -/
  query : Action σ κ
  /-- `Query::~Query` -/
  destroy : κ → σ → σ
  /-- `Query::status` -/
  status : κ → Action σ Status
  /-- `Query::for_application_id` -/
  forApplicationId : κ → String → Action σ Unit
  /-- `Query::for_feature` -/
  forFeature : κ → Feature → Action σ Unit
  /-- `Query::for_interval` -/
  forInterval : κ → Timestamp → Timestamp → Action σ Unit
  /-- `Query::for_answer` -/
  forAnswer : κ → Answer → Action σ Unit
  /-- `Query::all` -/
  all : κ → Action σ Unit
  /-- `Query::execute` -/
  execute : κ → Action σ Unit
  /-- `Query::next` -/
  next : κ → Action σ Unit
  /-- `Query::erase` -/
  erase : κ → Action σ Unit
  /-- `Query::current` -/
  current : κ → Action σ Request

namespace Store

open TrustStore.Base

variable {σ τ κ : Type}

/-- The check that `CachedAgent` and `process_trust_request` make first: limit a query to an
application and a feature, execute it and take its current request, the most recent one;
`src/core/trust/cached_agent.cpp:54–67`, `src/core/trust/request.cpp:50–61`. -/
def lookup (store : Store σ κ) (query : κ) (applicationId : String) (feature : Feature) :
    Action σ (Option Request) := do
  store.forApplicationId query applicationId
  store.forFeature query feature
  store.execute query
  if (← store.status query) = .hasMoreResults then
    return some (← store.current query)
  return none

/-- A store as one component of a larger state. -/
def zoom (store : Store σ κ) (view : τ → σ) (update : τ → σ → τ) : Store τ κ where
  reset := Fallible.zoom view update store.reset
  add request := Fallible.zoom view update (store.add request)
  removeApplication id := Fallible.zoom view update (store.removeApplication id)
  query := Fallible.zoom view update store.query
  destroy q t := update t (store.destroy q (view t))
  status q := Fallible.zoom view update (store.status q)
  forApplicationId q id := Fallible.zoom view update (store.forApplicationId q id)
  forFeature q feature := Fallible.zoom view update (store.forFeature q feature)
  forInterval q first last := Fallible.zoom view update (store.forInterval q first last)
  forAnswer q answer := Fallible.zoom view update (store.forAnswer q answer)
  all q := Fallible.zoom view update (store.all q)
  execute q := Fallible.zoom view update (store.execute q)
  next q := Fallible.zoom view update (store.next q)
  erase q := Fallible.zoom view update (store.erase q)
  current q := Fallible.zoom view update (store.current q)

/-- A component is looked up as it would be alone. -/
theorem lookup_zoom (store : Store σ κ) {view : τ → σ} {update : τ → σ → τ}
    (hview : ∀ t s, view (update t s) = s)
    (hupdate : ∀ t s r, update (update t s) r = update t r)
    (hput : ∀ t, update t (view t) = t) (query : κ) (applicationId : String)
    (feature : Feature) :
    (store.zoom view update).lookup query applicationId feature =
      Fallible.zoom view update (store.lookup query applicationId feature) := by
  simp only [lookup, zoom, Fallible.zoom_bind hview hupdate]
  congr 1
  funext _
  congr 1
  funext _
  congr 1
  funext _
  congr 1
  funext status
  split
  · rw [Fallible.zoom_bind hview hupdate]
    congr 1
    funext request
    rw [Fallible.zoom_pure hput]
  · rw [Fallible.zoom_pure hput]

end Store
end TrustStore
