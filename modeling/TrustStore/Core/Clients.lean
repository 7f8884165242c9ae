import TrustStore.Base.Transition
import TrustStore.Core.Store

/-!
# Clients of a store

Runs of operations on a store and on the queries made on it, in any order and by anyone who
holds them. Queries are numbered as they are made; one that was destroyed is not used again.
-/

namespace TrustStore

open TrustStore.Base

/-- The operations on a query. -/
inductive QueryOperation where
  | all
  | forApplicationId (id : String)
  | forFeature (feature : Feature)
  | forInterval (first last : Timestamp)
  | forAnswer (answer : Answer)
  | execute
  | next
  | erase
  | current
  | status
  deriving DecidableEq

/-- The operations on a store. -/
inductive Operation where
  | add (request : Request)
  | removeApplication (id : String)
  | reset
  | query
  | destroy (query : Nat)
  | onQuery (query : Nat) (operation : QueryOperation)
  deriving DecidableEq

/-- What an operation returns. -/
inductive Returned where
  | nothing
  | request (request : Request)
  | status (status : Status)
  deriving DecidableEq

variable {σ κ : Type}

/-- An operation on a query. -/
def Store.onQuery (store : Store σ κ) (query : κ) : QueryOperation → Action σ Returned
  | .all => do store.all query; return .nothing
  | .forApplicationId id => do store.forApplicationId query id; return .nothing
  | .forFeature feature => do store.forFeature query feature; return .nothing
  | .forInterval first last => do store.forInterval query first last; return .nothing
  | .forAnswer answer => do store.forAnswer query answer; return .nothing
  | .execute => do store.execute query; return .nothing
  | .next => do store.next query; return .nothing
  | .erase => do store.erase query; return .nothing
  | .current => do return .request (← store.current query)
  | .status => do return .status (← store.status query)

/-- The store raises `NoCurrentResult` out of `current` only. -/
structure Store.RaisesInCurrent (store : Store σ κ) : Prop where
  add : ∀ request, Fallible.Throws (· ≠ .noCurrentResult) (store.add request)
  removeApplication : ∀ id, Fallible.Throws (· ≠ .noCurrentResult) (store.removeApplication id)
  reset : Fallible.Throws (· ≠ .noCurrentResult) store.reset
  query : Fallible.Throws (· ≠ .noCurrentResult) store.query
  onQuery : ∀ query operation, operation ≠ .current →
    Fallible.Throws (· ≠ .noCurrentResult) (store.onQuery query operation)

/-- A store, the queries made on it, and what came of all operations so far. -/
structure Clients (σ κ : Type) where
  state : σ
  queries : List (Option κ)
  results : List (Except Exception Returned)

namespace Clients

/-- No query was made yet. -/
def start (state : σ) : Clients σ κ := ⟨state, [], []⟩

/-- The query with a number, unless it was destroyed. -/
def live (c : Clients σ κ) (n : Nat) : Option κ := c.queries[n]?.join

/-- An operation takes place. -/
def take (c : Clients σ κ) (m : Action σ Returned) : Clients σ κ :=
  { c with
    state := (m.exec c.state).2
    results := c.results ++ [(m.exec c.state).1] }

/-- A query is made. -/
def create (c : Clients σ κ) (outcome : Except Exception κ × σ) : Clients σ κ :=
  match outcome with
  | (.ok query, state) => ⟨state, c.queries ++ [some query], c.results ++ [.ok .nothing]⟩
  | (.error e, state) => ⟨state, c.queries, c.results ++ [.error e]⟩

/-- One operation. -/
def step (store : Store σ κ) (c : Clients σ κ) : Operation → Option (Clients σ κ)
  | .add request => some (c.take do store.add request; return .nothing)
  | .removeApplication id => some (c.take do store.removeApplication id; return .nothing)
  | .reset => some (c.take do store.reset; return .nothing)
  | .query => some (c.create (store.query.exec c.state))
  | .destroy n =>
    (c.live n).map fun query =>
      { state := store.destroy query c.state
        queries := c.queries.set n none
        results := c.results ++ [.ok .nothing] }
  | .onQuery n operation =>
    (c.live n).map fun query => c.take (store.onQuery query operation)

variable {c : Clients σ κ}

/-- An operation takes place as it is observed. -/
theorem take_eq {m : Action σ Returned} {r : Except Exception Returned} {s : σ}
    (h : m.exec c.state = (r, s)) :
    c.take m = { c with state := s, results := c.results ++ [r] } := by
  rw [take, h]

/-- A query in use can be destroyed. -/
theorem step_destroy {store : Store σ κ} {n : Nat} {query : κ} (h : c.live n = some query) :
    c.step store (.destroy n) = some
      { state := store.destroy query c.state
        queries := c.queries.set n none
        results := c.results ++ [.ok .nothing] } := by
  rw [step, h, Option.map_some]

/-- A query in use can be operated on. -/
theorem step_onQuery {store : Store σ κ} {n : Nat} {query : κ} {operation : QueryOperation}
    (h : c.live n = some query) :
    c.step store (.onQuery n operation) = some (c.take (store.onQuery query operation)) := by
  rw [step, h, Option.map_some]

/-- Numbers are given in order. -/
theorem lt_length_of_live {n : Nat} {query : κ} (h : c.live n = some query) :
    n < c.queries.length := by
  rw [live, Option.join_eq_some_iff] at h
  exact (List.getElem?_eq_some_iff.mp h).1

/-- A query that is made gets the next number. -/
theorem live_append (c : Clients σ κ) (state : σ) (query : κ)
    (results : List (Except Exception Returned)) (n : Nat) :
    (⟨state, c.queries ++ [some query], results⟩ : Clients σ κ).live n =
      if n = c.queries.length then some query else c.live n := by
  simp only [live, List.getElem?_append]
  split
  · rw [if_neg (by omega)]
  · split
    next h => simp [h]
    next =>
      rw [List.getElem?_eq_none (by simp; omega), List.getElem?_eq_none (by omega)]

/-- A query that is destroyed leaves the others alone. -/
theorem live_set (c : Clients σ κ) (state : σ) (results : List (Except Exception Returned))
    (m n : Nat) :
    (⟨state, c.queries.set m none, results⟩ : Clients σ κ).live n =
      if n = m then none else c.live n := by
  simp only [live, List.getElem?_set]
  by_cases h : n = m
  · subst h
    by_cases hlt : n < c.queries.length <;> simp [hlt]
  · simp [h, Ne.symm h]

end Clients
end TrustStore
