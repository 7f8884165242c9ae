import TrustStore.Core.Clients
import Mathlib.Logic.Function.Basic

/-!
# A ledger of requests

What a store is for, without statements, bindings and cursors: requests are entered under
numbers, and a query goes through the entries that met its criteria when it was executed,
newest first. The ledger never fails; what it leaves open is how entries are numbered and how
entries of the same time are ordered.
-/

namespace TrustStore

open TrustStore.Base

/-- A request under its number. -/
structure Ledger.Entry where
  number : Int64
  request : Request
  deriving DecidableEq, Repr

/-- What the entries of a query have to meet: one value for each kind of limit that was set. -/
structure Ledger.Criteria where
  applicationId : Option String
  feature : Option Feature
  interval : Option (Timestamp × Timestamp)
  answer : Option Answer
  deriving DecidableEq, Repr

namespace Ledger

/-- No limit. -/
def Criteria.none : Criteria := ⟨.none, .none, .none, .none⟩

/-- The request meets all limits that were set. -/
def Criteria.met (c : Criteria) (request : Request) : Bool :=
  c.applicationId.all (fun id => decide (request.origin = id)) &&
  c.feature.all (fun feature => decide (request.feature = feature)) &&
  c.interval.all (fun (first, last) => decide (first ≤ request.when ∧ request.when ≤ last)) &&
  c.answer.all (fun answer => decide (request.answer = answer))

/-- A query: its limits, its status, and once it was executed the entries it has yet to pass,
from the current one on. -/
structure Query where
  criteria : Criteria
  status : Status
  results : Option (List Entry)
  deriving DecidableEq, Repr

namespace Query

/-- A new query finds all entries. -/
def fresh : Query := ⟨.none, .armed, .none⟩

/-- The query stands before these entries. -/
def standing (q : Query) (results : List Entry) : Query :=
  { q with
    status := if results.isEmpty then .eor else .hasMoreResults
    results := some results }

/-- The entry that the query stands on. -/
def here (q : Query) : Option Entry :=
  if q.status = .hasMoreResults then q.results.bind List.head? else .none

/-- The entries behind the one that the query stands on. -/
def behind (q : Query) : List Entry := (q.results.getD []).tail

end Query

/-- How entries are numbered and ordered, as long as their requests are proper: newest first, and
those of the same time in any order. -/
structure Rules (Proper : Request → Prop) where
  number : List Entry → Int64
  sort : List Entry → List Entry
  sort_perm : ∀ entries, (∀ e ∈ entries, Proper e.request) → (sort entries).Perm entries
  sort_newestFirst : ∀ entries, (∀ e ∈ entries, Proper e.request) →
    (sort entries).Pairwise fun a b => b.request.when ≤ a.request.when

end Ledger

/-- All entries in the order in which they were made, and the queries on them. -/
structure Ledger where
  entries : List Ledger.Entry
  queries : Nat → Ledger.Query
  nextQuery : Nat

namespace Ledger

/-- No entries and no queries. -/
def empty : Ledger := ⟨[], fun _ => Query.fresh, 0⟩

/-- A query goes over to another state. -/
def turn (l : Ledger) (q : Nat) (query : Query) : Ledger :=
  { l with queries := Function.update l.queries q query }

variable {Proper : Request → Prop} (rules : Rules Proper)

/-- The entries that meet the limits of a query, in order. -/
def selection (l : Ledger) (q : Nat) : List Entry :=
  rules.sort (l.entries.filter fun e => (l.queries q).criteria.met e.request)

/-- A limit is set on a query. -/
def limit (q : Nat) (set : Criteria → Criteria) : Action Ledger Unit :=
  modify fun l => l.turn q { l.queries q with criteria := set (l.queries q).criteria }

/-- The ledger as a store. -/
def interface : Store Ledger Nat where
  reset := modify fun l => { l with entries := [] }
  add request := modify fun l =>
    { l with entries := l.entries ++ [⟨rules.number l.entries, request⟩] }
  removeApplication id := modify fun l =>
    { l with entries := l.entries.filter fun e => e.request.origin ≠ id }
  query := Fallible.ofFn fun l =>
    (.ok l.nextQuery, { l.turn l.nextQuery Query.fresh with nextQuery := l.nextQuery + 1 })
  destroy q l := l.turn q Query.fresh
  status q := do return ((← get).queries q).status
  forApplicationId q id := limit q fun c => { c with applicationId := some id }
  forFeature q feature := limit q fun c => { c with feature := some feature }
  forInterval q first last := limit q fun c => { c with interval := some (first, last) }
  forAnswer q answer := limit q fun c => { c with answer := some answer }
  all q := modify fun l =>
    l.turn q { l.queries q with criteria := Criteria.none, results := .none }
  execute q := modify fun l => l.turn q ((l.queries q).standing (l.selection rules q))
  next q := modify fun l => l.turn q ((l.queries q).standing (l.queries q).behind)
  erase q := do
    match ((← get).queries q).here with
    | .none =>
      throw (.runtimeError "Cannot delete request as query points beyond the result set.")
    | some e => modify fun l =>
      { l.turn q ((l.queries q).standing (l.queries q).behind) with
        entries := l.entries.filter fun other => other.number ≠ e.number }
  current q := do
    match ((← get).queries q).here with
    | .none => throw .noCurrentResult
    | some e => return e.request

variable {rules} {l : Ledger} {q : Nat}

/-- The request that a query stands on is read. -/
theorem current_exec (l : Ledger) (q : Nat) : ((interface rules).current q).exec l =
    (match (l.queries q).here with
      | .none => .error .noCurrentResult
      | some e => .ok e.request, l) := by
  have hget : (get : Action Ledger Ledger).exec l = (.ok l, l) := rfl
  rw [interface, Fallible.exec_bind_ok hget]
  cases (l.queries q).here <;> rfl

/-- Beyond the results nothing is erased. -/
theorem erase_exec_none (h : (l.queries q).here = .none) : ((interface rules).erase q).exec l =
    (.error (.runtimeError
      "Cannot delete request as query points beyond the result set."), l) := by
  have hget : (get : Action Ledger Ledger).exec l = (.ok l, l) := rfl
  rw [interface, Fallible.exec_bind_ok hget, h]
  rfl

/-- The entry that a query stands on is erased, and the query moves on. -/
theorem erase_exec_some {e : Entry} (h : (l.queries q).here = some e) :
    ((interface rules).erase q).exec l =
      (.ok (), { l.turn q ((l.queries q).standing (l.queries q).behind) with
        entries := l.entries.filter fun other => other.number ≠ e.number }) := by
  have hget : (get : Action Ledger Ledger).exec l = (.ok l, l) := rfl
  rw [interface, Fallible.exec_bind_ok hget, h]
  rfl

end Ledger
end TrustStore
