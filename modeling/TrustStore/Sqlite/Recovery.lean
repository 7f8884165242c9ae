import TrustStore.Base.AllOrNothing
import TrustStore.Sqlite.Cursor
import TrustStore.Sqlite.Leftovers

/-!
# Calls after a failed one

A call that changes the table or executes a query resets its statement first, and
`PreparedStatement::reset`, `src/core/trust/impl/sqlite3/store.cpp:200–207`, throws what
`sqlite3_reset` returns: the error of the step that failed before. The call after a failed one
fails, too, although SQLite reports nothing new. And where `erase` fails after it has deleted the
row, the row stays deleted.
-/

namespace TrustStore.Sqlite

open TrustStore.Base

/-- The first call goes well, and so do the others. -/
theorem Connection.unhindered_succ (db : Connection) (n : Nat) :
    db.Unhindered (n + 1) ↔ db.fault = none ∧ db.spend.Unhindered n := by
  have hfirst : db.fault = db.faults[0]?.join := by
    rw [Connection.fault, List.head?_eq_getElem?]
  have hrest : ∀ k, db.spend.faults[k]? = db.faults[k + 1]? := by
    intro k
    rw [Connection.spend_faults, List.getElem?_tail]
  constructor
  · intro h
    refine ⟨hfirst.trans (h 0 (Nat.succ_pos n)), fun k hk => ?_⟩
    rw [hrest]
    exact h (k + 1) (Nat.succ_lt_succ hk)
  · rintro ⟨hzero, h⟩ k hk
    cases k with
    | zero => exact hfirst.symm.trans hzero
    | succ k =>
      rw [← hrest]
      exact h k (Nat.lt_of_succ_lt_succ hk)

/-- No calls meet no failure. -/
theorem Connection.unhindered_zero (db : Connection) : db.Unhindered 0 :=
  fun _ hk => absurd hk (Nat.not_lt_zero _)

namespace PreparedStatement

open Fallible (AllOrNothing)

variable {sql : Sql}

/-- The table that a statement works on. -/
def rows (p : PreparedStatement sql) : List Row := p.db.requests

/-- The statement was halted by a failed step, so that resetting it throws. -/
def Halted (p : PreparedStatement sql) : Prop := p.statement.cursor.errorCode ≠ none

instance (p : PreparedStatement sql) : Decidable p.Halted := inferInstanceAs (Decidable (_ ≠ none))

private theorem reset_allOrNothing (p : PreparedStatement sql) :
    AllOrNothing rows reset p (¬p.Halted ∧ p.db.fault = none) (· = p.moved .ready) := by
  rcases p.reset_cases with ⟨hr, h⟩ | ⟨hr, e, h⟩
  · rw [resetFails, not_or, not_not] at hr
    exact .inl ⟨⟨hr.2, hr.1⟩, (), _, h, rfl⟩
  · refine .inr ⟨fun hclean => ?_, e, _, h, rfl⟩
    rcases hr with hf | hhalted
    · exact hf hclean.2
    · exact hclean.1 hhalted

/-- A step that starts a reset statement gets to its end, unless the call fails. -/
private theorem step_allOrNothing {p : PreparedStatement sql} {requests : List Row}
    (hc : p.statement.cursor = .ready)
    (hstart : start ⟨p.db.spend, p.statement⟩ =
      (.done, ⟨{ p.db.spend with requests }, { p.statement with cursor := .done }⟩)) :
    AllOrNothing rows step p (p.db.fault = none) fun q => q.db.requests = requests := by
  rcases step_start_cases hc hstart with ⟨hf, h⟩ | ⟨hf, e, code, h⟩
  · exact .inl ⟨hf, _, _, h, rfl⟩
  · exact .inr ⟨hf, e, _, h, rfl⟩

/-- The calls of `Store::reset`. -/
private theorem deleteRows_allOrNothing (p : PreparedStatement .delete) :
    AllOrNothing rows (do reset; step) p (¬p.Halted ∧ p.db.Unhindered 2)
      fun q => q.db.requests = [] := by
  have hstep : ∀ u : Unit, AllOrNothing rows step (p.moved .ready)
      ((p.moved .ready).db.fault = none) fun q => q.db.requests = [] :=
    fun _ => step_allOrNothing rfl rfl
  refine (p.reset_allOrNothing.bind rfl hstep).mono ?_ fun _ h => h
  simp only [Connection.unhindered_succ, Connection.unhindered_zero, moved]
  tauto

/-- The calls of `Store::remove_application`. -/
private theorem removeRows_allOrNothing (p : PreparedStatement .removeApplication)
    (id : String) :
    AllOrNothing rows (removeRows id) p (¬p.Halted ∧ p.db.Unhindered (bindCalls id + 2))
      fun q => q.db.requests = p.withoutRows id := by
  let q := p.moved .ready
  have hstep : ∀ r : PreparedStatement .removeApplication, r.statement.cursor = .ready →
      r.db.requests = p.db.requests → r.statement.bindings 1 = p.parameter id →
      AllOrNothing rows step r (r.db.fault = none) fun t => t.db.requests = p.withoutRows id := by
    intro r hc hrequests hbound
    have h : AllOrNothing rows step r (r.db.fault = none) fun t => t.db.requests =
        r.db.requests.filter fun row => !row.applicationId.equals (r.statement.bindings 1) :=
      step_allOrNothing hc rfl
    rw [hrequests, hbound] at h
    exact h
  by_cases hid : id = ""
  · subst hid
    have hremove : removeRows "" = (do reset; step) := rfl
    have hcalls : bindCalls "" = 0 := rfl
    rw [hremove, hcalls]
    refine (p.reset_allOrNothing.bind rfl fun _ => hstep q rfl rfl rfl).mono ?_ fun _ h => h
    simp only [Connection.unhindered_succ, Connection.unhindered_zero, moved, q]
    tauto
  · let r := q.rebound (Function.update q.statement.bindings 1 (.text id))
    have hbind : AllOrNothing rows (bindText 1 id) q (q.db.fault = none) (· = r) := by
      rcases q.bindText_cases 1 id with ⟨h, -⟩ | ⟨-, hf, h⟩ | ⟨-, hf, e, h⟩
      · exact absurd h hid
      · rw [bindFails, not_or, not_not] at hf
        exact .inl ⟨hf.1, (), _, h, rfl⟩
      · refine .inr ⟨fun hnone => ?_, e, _, h, rfl⟩
        rcases hf with hf | hready
        · exact hf hnone
        · exact hready rfl
    have hbound : r.statement.bindings 1 = p.parameter id := by
      simp [r, q, rebound, moved, parameter, hid]
    have hrest := hbind.bind rfl fun _ : Unit => hstep r rfl rfl hbound
    refine (p.reset_allOrNothing.bind rfl fun _ => hrest).mono ?_ fun _ h => h
    simp only [Connection.unhindered_succ, Connection.unhindered_zero, bindCalls, if_neg hid,
      moved, rebound, r, q]
    tauto

/-! ### The engine -/

/-- Both have the same engine. -/
private def SameEngine (p q : PreparedStatement sql) : Prop := q.db.engine = p.db.engine

private theorem reset_engine :
    Fallible.Keeps SameEngine (reset : Action (PreparedStatement sql) Unit) := by
  intro p
  rcases p.reset_cases with ⟨-, h⟩ | ⟨-, e, h⟩ <;> rw [h] <;> rfl

private theorem bindText_engine (index : Nat) (text : String) :
    Fallible.Keeps SameEngine (bindText index text : Action (PreparedStatement sql) Unit) := by
  intro p
  rcases p.bindText_cases index text with ⟨-, h⟩ | ⟨-, -, h⟩ | ⟨-, -, e, h⟩ <;> rw [h] <;> rfl

private theorem start_engine (p : PreparedStatement sql) : SameEngine p (start p).2 := by
  cases sql with
  | insert =>
    rw [start]
    split <;> rfl
  | delete | removeApplication | deleteById | select => rfl

private theorem step_engine :
    Fallible.Keeps SameEngine (step : Action (PreparedStatement sql) ResultCode) := by
  intro p
  have hstep : SameEngine p (sqlite3Step p).2 := by
    rw [sqlite3Step, api]
    cases p.db.fault with
    | some code => rfl
    | none =>
      cases p.statement.cursor with
      | row current rest => rfl
      | ready | done | failed _ => exact start_engine ⟨p.db.spend, p.statement⟩
  rw [step, check, Fallible.exec_ofFn]
  rcases h : sqlite3Step p with ⟨result, q⟩
  rw [h] at hstep
  cases result <;> exact hstep

private theorem sameEngine_bind {α β : Type} {m : Action (PreparedStatement sql) α}
    {f : α → Action (PreparedStatement sql) β} (hm : Fallible.Keeps SameEngine m)
    (hf : ∀ a, Fallible.Keeps SameEngine (f a)) : Fallible.Keeps SameEngine (m >>= f) :=
  Fallible.Keeps.bind (R := SameEngine) (fun h h' => Eq.trans h' h) hm hf

private theorem deleteRows_engine :
    Fallible.Keeps SameEngine (do reset; step : Action (PreparedStatement .delete) ResultCode) :=
  sameEngine_bind reset_engine fun _ => step_engine

private theorem removeRows_engine (id : String) : Fallible.Keeps SameEngine (removeRows id) :=
  sameEngine_bind reset_engine fun _ => sameEngine_bind (bindText_engine 1 id) fun _ => step_engine

end PreparedStatement

namespace Query

open Fallible (AllOrNothing)

variable (s : Query × Connection)

/-- The table that a query works on. -/
def rows (s : Query × Connection) : List Row := s.2.requests

/-- The query after `all`: nothing is bound, and the select statement is reset. -/
def cleared (q : Query) : Query := { q with selectStatement := Statement.prepared .select }

private theorem all_allOrNothing :
    AllOrNothing rows all s (¬(selecting s).Halted ∧ s.2.Unhindered 2)
      fun t => t.1 = cleared s.1 ∧ t.2.requests = s.2.requests := by
  have hreset : AllOrNothing rows (onSelect PreparedStatement.reset) s
      (¬(selecting s).Halted ∧ s.2.fault = none) (· = (s.1.moved .ready, s.2.spend)) := by
    refine ((selecting s).reset_allOrNothing.zoom rfl fun _ => rfl).mono Iff.rfl ?_
    rintro t ⟨p, rfl, rfl⟩
    rfl
  have hclear : AllOrNothing rows (onSelect PreparedStatement.clearBindings)
      (s.1.moved .ready, s.2.spend) (s.2.spend.fault = none)
      fun t => t.1 = cleared s.1 ∧ t.2.requests = s.2.requests := by
    rcases (selecting (s.1.moved .ready, s.2.spend)).clearBindings_cases with
      ⟨hf, h⟩ | ⟨hf, e, h⟩
    · exact .inl ⟨hf, (), _, onSelect_exec h, rfl, rfl⟩
    · exact .inr ⟨hf, e, _, onSelect_exec h, rfl⟩
  refine (hreset.bind rfl fun _ => hclear).mono ?_ fun _ h => h
  simp only [Connection.unhindered_succ, Connection.unhindered_zero]
  tauto

private theorem execute_allOrNothing :
    AllOrNothing rows execute s (¬(selecting s).Halted ∧ s.2.Unhindered 2)
      fun t => t.1 = s.1.delivered (results s) ∧ t.2.requests = s.2.requests := by
  have hiff : ¬(selecting s).Halted ∧ s.2.Unhindered 2 ↔
      ¬(selecting s).resetFails ∧ s.2.spend.fault = none := by
    simp only [Connection.unhindered_succ, Connection.unhindered_zero, PreparedStatement.Halted,
      PreparedStatement.resetFails, selecting]
    tauto
  rcases execute_cases s with ⟨hclean, h⟩ | ⟨hfails, e, cursor, db, h, -, hrequests, -⟩
  · exact .inl ⟨hiff.mpr hclean, (), _, h, rfl, rfl⟩
  · refine .inr ⟨fun hclean => ?_, e, _, h, hrequests⟩
    rcases hfails with hf | hf
    · exact (hiff.mp hclean).1 hf
    · exact hf (hiff.mp hclean).2

private theorem next_allOrNothing :
    AllOrNothing rows next s (s.2.Unhindered 1)
      fun t => t.1 = s.1.delivered (selecting s).pending ∧ t.2.requests = s.2.requests := by
  have hiff : s.2.Unhindered 1 ↔ s.2.fault = none := by
    simp only [Connection.unhindered_succ, Connection.unhindered_zero, and_true]
  rcases next_cases s with ⟨hf, h⟩ | ⟨code, hf, e, h⟩
  · exact .inl ⟨hiff.mpr hf, (), _, h, rfl, rfl⟩
  · refine .inr ⟨fun hclean => ?_, e, _, h, rfl⟩
    rw [hiff.mp hclean] at hf
    cases hf

/-- The id of the current row, as `erase` reads it. -/
def currentId (q : Query) : Int64 := (q.selectStatement.columnInt 0).toInt64

/-- The table without the rows that `erase` deletes. -/
def remaining (s : Query × Connection) : List Row :=
  s.2.requests.filter fun r => r.id ≠ s.1.currentId

/-- The rows that are pending once the current row is erased. -/
def pendingBehind (s : Query × Connection) : List Row :=
  (selecting (s.1, { s.2 with requests := remaining s })).pending

/-- Erasing within the results takes effect if all its calls go well. If only the last one fails,
the row is deleted and `erase` throws. -/
theorem erase_outcome (hwithin : s.1.status ≠ .eor) :
    (¬(deleting s).Halted ∧ s.2.Unhindered 4 ∧ ∃ t, erase.exec s = (.ok (), t) ∧
      t.2.requests = remaining s ∧ t.1.status = (s.1.delivered (pendingBehind s)).status ∧
      t.1.selectStatement = (s.1.delivered (pendingBehind s)).selectStatement) ∨
    ((deleting s).Halted ∨ ¬s.2.Unhindered 4) ∧ ∃ e t, erase.exec s = (.error e, t) ∧
      t.2.requests = if ¬(deleting s).Halted ∧ s.2.Unhindered 3 then remaining s
        else s.2.requests := by
  have hiff : (deleting s).deleteFails ↔ ¬(¬(deleting s).Halted ∧ s.2.Unhindered 3) := by
    simp only [Connection.unhindered_succ, Connection.unhindered_zero, PreparedStatement.Halted,
      PreparedStatement.deleteFails, PreparedStatement.resetFails, deleting]
    tauto
  have hfour : s.2.Unhindered 4 ↔ s.2.Unhindered 3 ∧ s.2.spend.spend.spend.fault = none := by
    simp only [Connection.unhindered_succ, Connection.unhindered_zero]
    tauto
  rw [erase_exec, if_neg hwithin]
  rcases (deleting s).deleteRow_cases (s.1.selectStatement.columnInt 0) with
    ⟨hclean, q, hq, hdb⟩ | ⟨hfails, e, q, hq, -, hrequests⟩
  · rw [hiff, not_not] at hclean
    rw [Fallible.exec_bind_ok (onDelete_exec hq)]
    have hrows : q.db.requests = remaining s := by
      rw [hdb, remaining]
      refine List.filter_congr fun r _ => ?_
      rw [Bool.eq_iff_iff, decide_eq_true_eq]
      simp [currentId, Value.equals]
    rcases next_cases ({ s.1 with deleteStatement := q.statement }, q.db) with
      ⟨hf, hnext⟩ | ⟨code, hf, e, hnext⟩
    · left
      have hpending : (selecting ({ s.1 with deleteStatement := q.statement }, q.db)).pending =
          pendingBehind s := by
        rw [pendingBehind, ← hrows]
        simp only [PreparedStatement.pending, selecting, hdb]
        rfl
      rw [hpending] at hnext
      refine ⟨hclean.1, hfour.mpr ⟨hclean.2, ?_⟩, _, hnext, hrows, ?_, ?_⟩
      · rw [hdb] at hf
        exact hf
      · cases pendingBehind s <;> rfl
      · cases pendingBehind s <;> rfl
    · right
      refine ⟨.inr fun h => ?_, e, _, hnext, ?_⟩
      · have hnone := (hfour.mp h).2
        rw [hdb] at hf
        have hsome : s.2.spend.spend.spend.fault = some code := hf
        rw [hnone] at hsome
        cases hsome
      · rw [if_pos hclean]
        exact hrows
  · right
    rw [hiff] at hfails
    refine ⟨?_, e, _, Fallible.exec_bind_error (onDelete_exec hq), ?_⟩
    · by_contra h
      push Not at h
      exact hfails ⟨h.1, (hfour.mp h.2).1⟩
    · rw [if_neg hfails]
      exact hrequests

end Query

namespace Store

open Fallible (AllOrNothing)

/-- The calls on a store and its queries that run a statement. -/
inductive Call where
  | change (change : Change)
  | reset
  | all (query : QueryId)
  | execute (query : QueryId)
  | next (query : QueryId)
  | erase (query : QueryId)

/-- The query with its connection. -/
def querying (s : Store) (q : QueryId) : Query × Connection := (s.queries q, s.db)

/-- The delete statement with the connection of the store. -/
def deleting (s : Store) : PreparedStatement .delete := ⟨s.db, s.deleteStatement⟩

namespace Call

/-- The call. -/
def perform : Call → Action Store Unit
  | change c => c.perform
  | reset => Store.reset
  | all q => onQuery q Query.all
  | execute q => onQuery q Query.execute
  | next q => onQuery q Query.next
  | erase q => onQuery q Query.erase

/-- The calls of SQLite that it takes. -/
def calls : Call → Nat
  | change c => c.calls
  | reset | all _ | execute _ => 2
  | next _ => 1
  | erase _ => 4

/-- The statement that is to be reset was halted by a failed step. -/
def Halted (s : Store) : Call → Prop
  | change c => c.Halted s
  | reset => s.deleting.Halted
  | all q | execute q => (Query.selecting (s.querying q)).Halted
  | next _ => False
  | erase q => (Query.deleting (s.querying q)).Halted

/-- SQLite rejects a row without an application id. -/
def Rejected (s : Store) : Call → Prop
  | change (.add request) => (Change.add request).parameter s = .null
  | _ => False

/-- SQLite reports a new failure in one of its calls: the first one, or a later one, which is made
unless the statement was halted. -/
def Reported (s : Store) (call : Call) : Prop :=
  ¬s.db.Unhindered 1 ∨ ¬call.Halted s ∧ (¬s.db.Unhindered call.calls ∨ call.Rejected s)

/-- Beyond the results there is nothing to erase. -/
def Possible (s : Store) : Call → Prop
  | erase q => (s.queries q).status ≠ .eor
  | _ => True

/-- What the call does to the table, and to the query if it is made on one. -/
def Effect (s t : Store) : Call → Prop
  | change c => t.db.requests = c.applied s
  | reset => t.db.requests = []
  | all q => t.queries q = (s.queries q).cleared ∧ t.db.requests = s.db.requests
  | execute q =>
    t.queries q = (s.queries q).delivered (Query.results (s.querying q)) ∧
      t.db.requests = s.db.requests
  | next q =>
    t.queries q = (s.queries q).delivered (Query.selecting (s.querying q)).pending ∧
      t.db.requests = s.db.requests
  | erase q =>
    t.db.requests = Query.remaining (s.querying q) ∧
      (t.queries q).status =
        ((s.queries q).delivered (Query.pendingBehind (s.querying q))).status ∧
      (t.queries q).selectStatement =
        ((s.queries q).delivered (Query.pendingBehind (s.querying q))).selectStatement

/-- A call that fails leaves the table as it was, and a call in which SQLite reports nothing new
takes effect. -/
structure Recovers (s : Store) (call : Call) : Prop where
  failed : ∀ e t, call.perform.exec s = (.error e, t) → t.db.requests = s.db.requests
  succeeds : call.Possible s → ¬call.Reported s →
    ∃ t, call.perform.exec s = (.ok (), t) ∧ call.Effect s t

/-- `erase` deletes a row, and only then fails. -/
def FailsLate (s : Store) : Call → Prop
  | erase q => (s.queries q).status ≠ .eor ∧ ¬(erase q).Halted s ∧ s.db.Unhindered 3 ∧
      ¬s.db.Unhindered 4 ∧ ∃ r ∈ s.db.requests, r.id = (s.queries q).currentId
  | _ => False

/-- Unless it fails anew, the call finds no statement halted; and it does not fail late. -/
def Unpoisoned (s : Store) (call : Call) : Prop :=
  (call.Possible s → call.Halted s → ¬s.db.Unhindered 1) ∧ ¬call.FailsLate s

end Call

variable {s : Store} {call : Call}

/-- What a halted statement throws is nothing new. -/
private theorem Call.not_reported (hhalted : call.Halted s) (hfirst : s.db.Unhindered 1) :
    ¬call.Reported s := by
  rintro (hhindered | ⟨hready, -⟩)
  · exact hhindered hfirst
  · exact hready hhalted

/-- A call that takes effect or changes nothing recovers unless its statement is halted. -/
private theorem recovers_iff_of_allOrNothing {n : Nat} (hcalls : call.calls = n + 1)
    (hpossible : call.Possible s) (hlate : ¬call.FailsLate s)
    (h : AllOrNothing (fun t => t.db.requests) call.perform s
      (¬call.Halted s ∧ s.db.Unhindered call.calls ∧ ¬call.Rejected s) (call.Effect s)) :
    call.Recovers s ↔ call.Unpoisoned s := by
  rw [hcalls] at h
  constructor
  · intro hrecovers
    refine ⟨fun _ hhalted hfirst => ?_, hlate⟩
    obtain ⟨t, hexec, -⟩ := hrecovers.succeeds hpossible (Call.not_reported hhalted hfirst)
    rcases h with ⟨⟨hready, -⟩, -⟩ | ⟨-, e, u, herror, -⟩
    · exact hready hhalted
    · rw [herror] at hexec
      cases hexec
  · rintro ⟨hready, -⟩
    refine ⟨fun e t herror => h.view_of_error herror, fun _ hreported => ?_⟩
    rw [Call.Reported, hcalls, not_or, not_not, not_and, not_or, not_not] at hreported
    rcases h with ⟨-, ⟨⟩, t, hexec, ht⟩ | ⟨hclean, -⟩
    · exact ⟨t, hexec, ht⟩
    · have hhalted : ¬call.Halted s := fun hhalted => hready hpossible hhalted hreported.1
      exact absurd ⟨hhalted, hreported.2 hhalted⟩ hclean

private theorem reset_allOrNothing (s : Store) :
    AllOrNothing (fun t => t.db.requests) reset s (¬s.deleting.Halted ∧ s.db.Unhindered 2)
      fun t => t.db.requests = [] := by
  have hbind : (do
      onDelete PreparedStatement.reset
      let _ ← onDelete PreparedStatement.step) =
        onDelete (do PreparedStatement.reset; PreparedStatement.step) >>= fun _ => pure () := by
    rw [onDelete_bind, bind_assoc]
  rw [reset, hbind]
  refine AllOrNothing.tryCatch (AllOrNothing.bind_pure ?_ _) fun e t => ?_
  · refine (s.deleting.deleteRows_allOrNothing.zoom rfl fun _ => rfl).mono Iff.rfl ?_
    rintro t ⟨p, hp, rfl⟩
    exact hp
  · by_cases he : e.isRuntimeError
    · exact ⟨.errorResettingStore e.what, by rw [if_pos he]; rfl⟩
    · exact ⟨e, by rw [if_neg he]; rfl⟩

private theorem change_allOrNothing (s : Store) (change : Change) :
    AllOrNothing (fun t => t.db.requests) change.perform s
      (¬change.Halted s ∧ s.db.Unhindered change.calls ∧ ¬(Call.change change).Rejected s)
      fun t => t.db.requests = change.applied s := by
  cases change with
  | add request =>
    have hafter := Change.after_eq (.add request) s
    have hidle := Change.applied_eq_iff (.add request) s
    have hperform : (Change.add request).perform = add request := rfl
    rw [Change.after, hperform] at hafter
    rw [hperform]
    rcases add_cases s request with ⟨-, t, h, -, -, hrequests⟩ | ⟨e, t, h, -, hrequests, -⟩
    · rw [h] at hafter
      -- the table has changed, so that the call was neither halted nor hindered nor idle
      have hchanged : t.db.requests ≠ s.db.requests := by
        rw [hrequests]
        simp
      split at hafter
      next hclean =>
        refine .inl ⟨⟨hclean.1, hclean.2, fun hnull => ?_⟩, (), t, h, hafter⟩
        exact hchanged (hafter.trans (hidle.mpr hnull))
      next => exact absurd hafter hchanged
    · refine .inr ⟨fun hclean => ?_, e, t, h, hrequests⟩
      rw [h, if_pos ⟨hclean.1, hclean.2.1⟩] at hafter
      exact hclean.2.2 (hidle.mp (hafter.symm.trans hrequests))
  | removeApplication id =>
    have hperform : (Change.removeApplication id).perform =
        onRemoveApplication (PreparedStatement.removeRows id) >>= fun _ => pure () :=
      removeApplication_eq id
    rw [hperform]
    refine AllOrNothing.bind_pure ?_ _
    refine ((s.removing.removeRows_allOrNothing id).zoom rfl fun _ => rfl).mono ?_ ?_
    · exact and_congr_right' (and_iff_left not_false).symm
    · rintro t ⟨p, hp, rfl⟩
      exact hp

/-- `remove_application` removes the rows of an application, or it throws and leaves the table
alone. -/
theorem removeApplication_cases (s : Store) {id : String} (hid : id ≠ "") :
    (∃ t, (removeApplication id).exec s = (.ok (), t) ∧ t.db.engine = s.db.engine ∧
      t.db.requests = s.db.requests.filter fun r => !r.applicationId.equals (.text id)) ∨
    ∃ e t, (removeApplication id).exec s = (.error e, t) ∧ t.db.engine = s.db.engine ∧
      t.db.requests = s.db.requests := by
  have hengine : ((removeApplication id).exec s).2.db.engine = s.db.engine := by
    rw [removeApplication_eq, Fallible.exec_bind_pure_snd]
    exact PreparedStatement.removeRows_engine id s.removing
  have happlied : (Change.removeApplication id).applied s =
      s.db.requests.filter fun r => !r.applicationId.equals (.text id) := by
    rw [Change.applied, PreparedStatement.withoutRows, PreparedStatement.parameter, if_neg hid]
    rfl
  rcases change_allOrNothing s (.removeApplication id) with ⟨-, ⟨⟩, t, h, ht⟩ | ⟨-, e, t, h, ht⟩
  · rw [Change.perform] at h
    rw [h] at hengine
    exact .inl ⟨t, h, hengine, ht.trans happlied⟩
  · rw [Change.perform] at h
    rw [h] at hengine
    exact .inr ⟨e, t, h, hengine, ht⟩

/-- `reset` removes all rows, or it throws and leaves the table alone. -/
theorem reset_cases (s : Store) :
    (∃ t, reset.exec s = (.ok (), t) ∧ t.db.engine = s.db.engine ∧ t.db.requests = []) ∨
    ∃ e t, reset.exec s = (.error e, t) ∧ t.db.engine = s.db.engine ∧
      t.db.requests = s.db.requests := by
  have hengine : (reset.exec s).2.db.engine = s.db.engine := by
    have hdelete : ((onDelete (do PreparedStatement.reset; PreparedStatement.step)).exec
        s).2.db.engine = s.db.engine := PreparedStatement.deleteRows_engine s.deleting
    rw [reset, Fallible.exec_tryCatch, ← bind_assoc, Fallible.exec_bind]
    rw [onDelete_bind] at hdelete
    rcases h : (onDelete PreparedStatement.reset >>= fun _ =>
      onDelete PreparedStatement.step).exec s with ⟨e | result, t⟩
    · rw [h] at hdelete
      simp only [Fallible.exec_ite, Fallible.exec_throw]
      split <;> exact hdelete
    · rw [h] at hdelete
      exact hdelete
  rcases reset_allOrNothing s with ⟨-, ⟨⟩, t, h, ht⟩ | ⟨-, e, t, h, ht⟩
  · rw [h] at hengine
    exact .inl ⟨t, h, hengine, ht⟩
  · rw [h] at hengine
    exact .inr ⟨e, t, h, hengine, ht⟩

/-- A call on a query takes effect on the store as it does on the query. -/
private theorem onQuery_allOrNothing {q : QueryId} {m : Query.Method Unit} {clean : Prop}
    {query : Query} (h : AllOrNothing Query.rows m (s.querying q) clean
      fun t => t.1 = query ∧ t.2.requests = s.db.requests) :
    AllOrNothing (fun t => t.db.requests) (onQuery q m) s clean
      fun t => t.queries q = query ∧ t.db.requests = s.db.requests := by
  unfold onQuery
  refine AllOrNothing.mono (AllOrNothing.zoom h rfl fun _ => rfl) Iff.rfl ?_
  rintro t ⟨r, ⟨hquery, hrequests⟩, rfl⟩
  exact ⟨(Function.update_self q r.1 s.queries).trans hquery, hrequests⟩

/-- Beyond the results `erase` throws and leaves the store as it was. -/
private theorem recovers_erase_eor {q : QueryId} (heor : (s.queries q).status = .eor) :
    (Call.erase q).Recovers s := by
  refine ⟨fun e t h => ?_, fun hpossible => absurd heor hpossible⟩
  have hexec := Query.erase_exec (s.querying q)
  have hstatus : (s.querying q).1.status = .eor := heor
  rw [if_pos hstatus] at hexec
  rw [Call.perform, onQuery_exec hexec] at h
  cases h
  rfl

/-- Within the results `erase` recovers unless its statement is halted or it fails late. -/
private theorem recovers_erase_iff {q : QueryId} (hwithin : (s.queries q).status ≠ .eor) :
    (Call.erase q).Recovers s ↔ (Call.erase q).Unpoisoned s := by
  rcases Query.erase_outcome (s.querying q) hwithin with
    ⟨hready, hfour, t, hexec, hrequests, hstatus, hselect⟩ | ⟨hwhy, e, t, hexec, hrequests⟩
  · refine iff_of_true ⟨fun e u h => ?_, fun _ _ => ⟨_, onQuery_exec hexec, ?_⟩⟩ ⟨?_, ?_⟩
    · rw [Call.perform, onQuery_exec hexec] at h
      cases h
    · have hquery : Function.update s.queries q t.1 q = t.1 := Function.update_self q t.1 s.queries
      refine ⟨hrequests, ?_, ?_⟩
      · exact (congrArg Query.status hquery).trans hstatus
      · exact (congrArg Query.selectStatement hquery).trans hselect
    · exact fun _ hhalted => absurd hhalted hready
    · exact fun hlate => hlate.2.2.2.1 hfour
  · have hthrows := onQuery_exec hexec
    constructor
    · intro hrecovers
      refine ⟨fun hpossible hhalted hfirst => ?_, fun hlate => ?_⟩
      · obtain ⟨u, hok, -⟩ := hrecovers.succeeds hpossible (Call.not_reported hhalted hfirst)
        rw [Call.perform, hthrows] at hok
        cases hok
      · obtain ⟨-, hready, hthree, -, r, hr, hid⟩ := hlate
        have hkept : t.2.requests = s.db.requests := hrecovers.failed e _ hthrows
        rw [if_pos ⟨hready, hthree⟩] at hrequests
        rw [← hkept, hrequests, Query.remaining, List.mem_filter, decide_eq_true_eq] at hr
        exact hr.2 hid
    · rintro ⟨hready, hlate⟩
      refine ⟨fun e' u h => ?_, fun _ hreported => ?_⟩
      · rw [Call.perform, hthrows] at h
        cases h
        change t.2.requests = s.db.requests
        rw [hrequests]
        split
        next hclean =>
          have hfour : ¬s.db.Unhindered 4 := hwhy.resolve_left hclean.1
          rw [Query.remaining]
          refine List.filter_eq_self.mpr fun r hr => decide_eq_true fun hid => ?_
          exact hlate ⟨hwithin, hclean.1, hclean.2, hfour, r, hr, hid⟩
        next => rfl
      · rw [Call.Reported, not_or, not_not, not_and, not_or, not_not] at hreported
        rcases hwhy with hhalted | hhindered
        · exact absurd hreported.1 (hready hwithin hhalted)
        · by_cases hhalted : (Call.erase q).Halted s
          · exact absurd hreported.1 (hready hwithin hhalted)
          · exact absurd (hreported.2 hhalted).1 hhindered

/-- A call recovers exactly if it is not poisoned by a failed one. -/
theorem Call.recovers_iff (s : Store) (call : Call) : call.Recovers s ↔ call.Unpoisoned s := by
  have hclean : ∀ {p q : Prop}, p ∧ q ↔ p ∧ q ∧ ¬False := by
    intro p q
    rw [not_false_eq_true, and_true]
  cases call with
  | change c =>
    have hcalls : ∃ n, (Call.change c).calls = n + 1 := by
      cases c
      · exact ⟨_, rfl⟩
      · exact ⟨_, rfl⟩
    obtain ⟨n, hcalls⟩ := hcalls
    exact recovers_iff_of_allOrNothing hcalls trivial id (change_allOrNothing s c)
  | reset =>
    exact recovers_iff_of_allOrNothing rfl trivial id
      ((reset_allOrNothing s).mono hclean fun _ h => h)
  | all q =>
    exact recovers_iff_of_allOrNothing rfl trivial id
      ((onQuery_allOrNothing (Query.all_allOrNothing _)).mono hclean fun _ h => h)
  | execute q =>
    exact recovers_iff_of_allOrNothing rfl trivial id
      ((onQuery_allOrNothing (Query.execute_allOrNothing _)).mono hclean fun _ h => h)
  | next q =>
    refine recovers_iff_of_allOrNothing rfl trivial id
      ((onQuery_allOrNothing (Query.next_allOrNothing _)).mono ?_ fun _ h => h)
    exact (and_iff_right not_false).symm.trans hclean
  | erase q =>
    by_cases heor : (s.queries q).status = .eor
    · refine iff_of_true (recovers_erase_eor heor) ⟨fun hpossible => absurd heor hpossible, ?_⟩
      exact fun hlate => hlate.1 heor
    · exact recovers_erase_iff heor

/-! ### Runs -/

/-- The call that an operation makes. -/
def callOf (c : Clients Store QueryId) : Operation → Option Call
  | .add request => some (.change (.add request))
  | .removeApplication id => some (.change (.removeApplication id))
  | .reset => some .reset
  | .onQuery n .all => (c.live n).map .all
  | .onQuery n .execute => (c.live n).map .execute
  | .onQuery n .next => (c.live n).map .next
  | .onQuery n .erase => (c.live n).map .erase
  | _ => none

/-- The call of the operation, if it makes one, recovers. -/
def Recovers (c : Clients Store QueryId) (operation : Operation) : Prop :=
  ∀ call, callOf c operation = some call → call.Recovers c.state

/-- The call of the operation, if it makes one, is not poisoned by a failed one. -/
def Unpoisoned (c : Clients Store QueryId) (operation : Operation) : Prop :=
  ∀ call, callOf c operation = some call → call.Unpoisoned c.state

/-- A store whose database is busy when the first row is inserted. -/
def busy : Connection := ⟨Engine.stable, [], [none, none, none, none, none, some 5]⟩

end Store
end TrustStore.Sqlite
