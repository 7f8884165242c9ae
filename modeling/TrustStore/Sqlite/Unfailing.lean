import TrustStore.Sqlite.Filters
import TrustStore.Sqlite.Recovery

/-!
# Calls that meet no failure

On a connection without failures to come every operation of the store and its queries is an
equation, as long as its statement was not halted before and filters are only set on a query
whose select statement is reset.
-/

namespace TrustStore.Sqlite

open TrustStore.Base

/-- A call on a connection without failures to come uses nothing up. -/
theorem Connection.spend_eq {db : Connection} (hf : db.faults = []) : db.spend = db := by
  cases db
  cases hf
  rfl

/-- Calls on a connection without failures to come change nothing but its rows. -/
theorem Connection.eq_of_advances {db db' : Connection} {rows : List Row}
    (h : PreparedStatement.Advances db db') (hf : db.faults = []) (hrows : db'.requests = rows) :
    db' = { db with requests := rows } := by
  obtain ⟨engine, requests, faults⟩ := db'
  obtain rfl : engine = db.engine := h.engine
  obtain rfl : requests = rows := hrows
  obtain rfl : faults = [] := h.faults hf
  rw [hf]

namespace PreparedStatement

variable {sql : Sql} {p : PreparedStatement sql}

/-- A statement that was not halted is reset. -/
theorem reset_exec (hf : p.db.faults = []) (hc : p.statement.cursor.errorCode = none) :
    reset.exec p = (.ok (), ⟨p.db, { p.statement with cursor := .ready }⟩) := by
  rcases p.reset_cases with ⟨-, h⟩ | ⟨hr, -⟩
  · rw [h, moved, Connection.spend_eq hf]
  · rcases hr with hr | hr
    · exact absurd (Connection.fault_eq_none hf) hr
    · exact absurd hc hr

/-- A text that is not empty is bound to a reset statement. -/
theorem bindText_exec (hf : p.db.faults = []) (hc : p.statement.cursor = .ready) (index : Nat)
    {text : String} (ht : text ≠ "") : (bindText index text).exec p =
      (.ok (), ⟨p.db, { p.statement with
        bindings := Function.update p.statement.bindings index (.text text) }⟩) := by
  rcases p.bindText_cases index text with ⟨h, -⟩ | ⟨-, -, h⟩ | ⟨-, hfails, -⟩
  · exact absurd h ht
  · rw [h, rebound, Connection.spend_eq hf]
  · rcases hfails with h | h
    · exact absurd (Connection.fault_eq_none hf) h
    · exact absurd hc h

/-- An integer is bound to a reset statement. -/
theorem bindInt64_exec (hf : p.db.faults = []) (hc : p.statement.cursor = .ready) (index : Nat)
    (i : Int64) : (bindInt64 index i).exec p =
      (.ok (), ⟨p.db, { p.statement with
        bindings := Function.update p.statement.bindings index (.integer i) }⟩) := by
  rcases p.bindInt64_cases index i with ⟨-, h⟩ | ⟨hfails, -⟩
  · rw [h, rebound, Connection.spend_eq hf]
  · rcases hfails with h | h
    · exact absurd (Connection.fault_eq_none hf) h
    · exact absurd hc h

/-- Bindings are cleared. -/
theorem clearBindings_exec (hf : p.db.faults = []) : clearBindings.exec p =
    (.ok (), ⟨p.db, { p.statement with bindings := Bindings.none }⟩) := by
  rcases p.clearBindings_cases with ⟨-, h⟩ | ⟨h, -⟩
  · rw [h, rebound, Connection.spend_eq hf]
  · exact absurd (Connection.fault_eq_none hf) h

/-- A reset statement that gets to its end leaves the rows that it says. -/
theorem step_exec {rows : List Row} (hf : p.db.faults = []) (hc : p.statement.cursor = .ready)
    (hstart : start p =
      (.done, ⟨{ p.db with requests := rows }, { p.statement with cursor := .done }⟩)) :
    step.exec p =
      (.ok .done, ⟨{ p.db with requests := rows }, { p.statement with cursor := .done }⟩) := by
  have hspent : start ⟨p.db.spend, p.statement⟩ =
      (.done, ⟨{ p.db.spend with requests := rows }, { p.statement with cursor := .done }⟩) := by
    rw [Connection.spend_eq hf]
    exact hstart
  rcases step_start_cases hc hspent with ⟨-, h⟩ | ⟨h, -⟩
  · rw [h, Connection.spend_eq hf]
  · exact absurd (Connection.fault_eq_none hf) h

end PreparedStatement

namespace Query

variable {q : Query} {db : Connection}

/-- Setting a filter binds it. -/
theorem set_exec (hf : db.faults = []) (hc : q.selectStatement.cursor = .ready) {filter : Filter}
    (hid : filter ≠ .applicationId "") : filter.set.exec (q, db) =
      (.ok (), { q with selectStatement :=
        { q.selectStatement with bindings := filter.bind q.selectStatement.bindings } }, db) := by
  cases filter with
  | applicationId id =>
    have hne : id ≠ "" := fun h => hid (h ▸ rfl)
    rw [Filter.bind, if_neg hne]
    exact onSelect_exec (PreparedStatement.bindText_exec hf hc 1 hne)
  | feature feature => exact onSelect_exec (PreparedStatement.bindInt64_exec hf hc 2 _)
  | interval first last =>
    have hfirst := onSelect_exec (s := (q, db))
      (PreparedStatement.bindInt64_exec (p := selecting (q, db)) hf hc 3 first)
    rw [Filter.set, forInterval, Fallible.exec_bind_ok hfirst]
    exact onSelect_exec (PreparedStatement.bindInt64_exec hf hc 4 last)
  | answer answer => exact onSelect_exec (PreparedStatement.bindInt64_exec hf hc 5 _)

/-- `all` resets the select statement and clears its bindings. -/
theorem all_exec (hf : db.faults = []) (hc : q.selectStatement.cursor.errorCode = none) :
    all.exec (q, db) = (.ok (), q.cleared, db) := by
  have hreset := onSelect_exec (s := (q, db))
    (PreparedStatement.reset_exec (p := selecting (q, db)) hf hc)
  rw [all, Fallible.exec_bind_ok hreset]
  refine onSelect_exec (PreparedStatement.clearBindings_exec ?_)
  exact hf

/-- `execute` delivers the first of the results. -/
theorem execute_exec (hf : db.faults = []) (hc : q.selectStatement.cursor.errorCode = none) :
    execute.exec (q, db) = (.ok (), q.delivered (results (q, db)), db) := by
  have hnone := Connection.fault_eq_none hf
  rcases execute_cases (q, db) with ⟨-, h⟩ | ⟨hfails, -⟩
  · rwa [Connection.spend_eq hf, Connection.spend_eq hf] at h
  · rw [Connection.spend_eq hf] at hfails
    rcases hfails with (h | h) | h
    · exact absurd hnone h
    · exact absurd hc h
    · exact absurd hnone h

/-- `next` delivers the next of the pending rows. -/
theorem next_exec (hf : db.faults = []) :
    next.exec (q, db) = (.ok (), q.delivered (selecting (q, db)).pending, db) := by
  rcases next_cases (q, db) with ⟨-, h⟩ | ⟨code, h, -⟩
  · rwa [Connection.spend_eq hf] at h
  · rw [Connection.fault_eq_none hf] at h
    cases h

/-- Erasing on a row deletes the rows with its id, read as 32 bits, and moves on. -/
theorem erase_exec_row (hf : db.faults = []) (hd : q.deleteStatement.cursor.errorCode = none)
    (hstatus : q.status ≠ .eor) {row : Row} {rest : List Row}
    (hc : q.selectStatement.cursor = .row row rest) :
    ∃ statement, statement.cursor.errorCode = none ∧ erase.exec (q, db) =
      (.ok (), { q.delivered rest with deleteStatement := statement },
        { db with requests := db.requests.filter fun r => r.id ≠ row.id.toInt32.toInt64 }) := by
  have hid : (q.selectStatement.columnInt 0).toInt64 = row.id.toInt32.toInt64 := by
    rw [Statement.columnInt, Statement.columnInt64, Statement.column, hc]
    rfl
  have hnone := Connection.fault_eq_none hf
  rw [erase_exec, if_neg hstatus]
  rcases (deleting (q, db)).deleteRow_cases (q.selectStatement.columnInt 0) with
    ⟨-, p, hp, hdb⟩ | ⟨hfails, -⟩
  · have hready : p.statement.cursor.errorCode = none := by
      rw [PreparedStatement.deleteRow] at hp
      obtain ⟨_, _, -, hp⟩ := Fallible.exec_bind_eq_ok hp
      obtain ⟨_, _, -, hp⟩ := Fallible.exec_bind_eq_ok hp
      exact PreparedStatement.errorCode_of_step hp
    have hrequests : p.db =
        { db with requests := db.requests.filter fun r => r.id ≠ row.id.toInt32.toInt64 } := by
      rw [hdb, hid]
      simp [deleting, Connection.spend_eq hf, Value.equals]
    have hpfaults : p.db.faults = [] := by
      rw [hrequests]
      exact hf
    refine ⟨p.statement, hready, ?_⟩
    have hpending : (selecting ({ q with deleteStatement := p.statement }, p.db)).pending =
        rest := by
      simp only [PreparedStatement.pending, selecting, hc]
    have hdelete := onDelete_exec (s := (q, db)) hp
    rw [Fallible.exec_bind_ok hdelete, next_exec hpfaults, hpending, hrequests]
    cases rest <;> rfl
  · rw [PreparedStatement.deleteFails] at hfails
    simp only [deleting, Connection.spend_eq hf] at hfails
    rcases hfails with (h | h) | h | h
    · exact absurd hnone h
    · exact absurd hd h
    · exact absurd hnone h
    · exact absurd hnone h

end Query

namespace Store

variable {s : Store}

/-- `reset` empties the table. -/
theorem reset_exec (hf : s.db.faults = []) (hc : s.deleteStatement.cursor.errorCode = none) :
    reset.exec s = (.ok (), { s with
      db := { s.db with requests := [] }
      deleteStatement := { s.deleteStatement with cursor := .done } }) := by
  have hdelete : (do PreparedStatement.reset; PreparedStatement.step).exec
      (⟨s.db, s.deleteStatement⟩ : PreparedStatement .delete) =
        (.ok .done, ⟨{ s.db with requests := [] },
          { s.deleteStatement with cursor := .done }⟩) := by
    rw [Fallible.exec_bind_ok (PreparedStatement.reset_exec hf hc)]
    exact PreparedStatement.step_exec hf rfl rfl
  have hcalls : (do
      onDelete PreparedStatement.reset
      let _ ← onDelete PreparedStatement.step) =
        onDelete (do PreparedStatement.reset; PreparedStatement.step) >>= fun _ => pure () := by
    rw [onDelete_bind, bind_assoc]
  rw [reset, hcalls, Fallible.exec_tryCatch, Fallible.exec_bind, onDelete, Fallible.exec_zoom,
    hdelete]
  rfl

/-- `remove_application` removes the rows of the application. -/
theorem removeApplication_exec_ne (hf : s.db.faults = [])
    (hc : s.removeApplicationStatement.cursor.errorCode = none) {id : String} (hid : id ≠ "") :
    (removeApplication id).exec s = (.ok (), { s with
      db := { s.db with
        requests := s.db.requests.filter fun r => !r.applicationId.equals (.text id) }
      removeApplicationStatement :=
        ⟨Function.update s.removeApplicationStatement.bindings 1 (.text id), .done⟩ }) := by
  have hremove : (PreparedStatement.removeRows id).exec s.removing = (.ok .done,
      ⟨{ s.db with
          requests := s.db.requests.filter fun r => !r.applicationId.equals (.text id) },
        ⟨Function.update s.removeApplicationStatement.bindings 1 (.text id), .done⟩⟩) := by
    rw [PreparedStatement.removeRows,
      Fallible.exec_bind_ok (PreparedStatement.reset_exec (p := s.removing) hf hc)]
    let p : PreparedStatement .removeApplication :=
      ⟨s.db, { s.removeApplicationStatement with cursor := .ready }⟩
    have hbind := PreparedStatement.bindText_exec (p := p) hf rfl 1 hid
    refine (Fallible.exec_bind_ok hbind).trans ?_
    exact PreparedStatement.step_exec hf rfl rfl
  rw [removing] at hremove
  rw [removeApplication_eq, Fallible.exec_bind, onRemoveApplication, Fallible.exec_zoom, hremove]
  rfl

/-- `add` appends the row of a request with an application id. -/
theorem add_exec_ne (hf : s.db.faults = []) (hc : s.insertStatement.cursor.errorCode = none)
    {request : Request} (hid : request.origin ≠ "") :
    ∃ statement, statement.cursor.errorCode = none ∧ (add request).exec s = (.ok (), { s with
      db := { s.db with requests :=
        s.db.requests ++ [Row.ofRequest (s.db.engine.rowid s.db.requests) request] }
      insertStatement := statement }) := by
  rw [add_eq, Fallible.exec_bind, onInsert, Fallible.exec_zoom]
  rcases s.inserting.insertRow_cases request with ⟨-, p, h, hdone, hadvances, hrequests⟩ |
    ⟨-, hwhy⟩
  · have hdb : p.db = { s.db with requests :=
        s.db.requests ++ [Row.ofRequest (s.db.engine.rowid s.db.requests) request] } := by
      rw [addedRow_eq s hid] at hrequests
      exact Connection.eq_of_advances hadvances hf hrequests
    rw [inserting] at h
    refine ⟨p.statement, by rw [hdone]; rfl, ?_⟩
    rw [h, ← hdb]
    rfl
  · exfalso
    rcases hwhy with h | h | h
    · exact h hf
    · exact h hc
    · exact s.boundId_ne_null hid h

end Store
end TrustStore.Sqlite
