import TrustStore.Sqlite.Statement

/-!
# Queries on the SQLite store

Models `sqlite::Store::Query`, `src/core/trust/impl/sqlite3/store.cpp:495–702`. A query
owns a select and a delete statement and caches the position of the former as a status.
Its methods run on the query and on the connection of the store it belongs to.
-/

namespace TrustStore.Sqlite

open TrustStore.Base

/-- `sqlite::Store::Query`; `src/core/trust/impl/sqlite3/store.cpp:496,682–701`. -/
structure Query where
  status : Status
  selectStatement : Statement .select
  deleteStatement : Statement .deleteById
  deriving Inhabited

namespace Query

/-- Methods of a query, on the query and its connection. -/
abbrev Method := Action (Query × Connection)

/-- The select statement with its connection. -/
def selecting (s : Query × Connection) : PreparedStatement .select := ⟨s.2, s.1.selectStatement⟩

/-- The delete statement with its connection. -/
def deleting (s : Query × Connection) : PreparedStatement .deleteById := ⟨s.2, s.1.deleteStatement⟩

/-- A call on the select statement. -/
def onSelect {α : Type} : Action (PreparedStatement .select) α → Method α :=
  Fallible.zoom selecting fun s p => ({ s.1 with selectStatement := p.statement }, p.db)

/-- A call on the delete statement. -/
def onDelete {α : Type} : Action (PreparedStatement .deleteById) α → Method α :=
  Fallible.zoom deleting fun s p => ({ s.1 with deleteStatement := p.statement }, p.db)

/-- A call on the select statement has its outcome, and changes nothing else of the query. -/
theorem onSelect_exec {α : Type} {m : Action (PreparedStatement .select) α} {s : Query × Connection}
    {r : Except Exception α} {p : PreparedStatement .select} (h : m.exec (selecting s) = (r, p)) :
    (onSelect m).exec s = (r, { s.1 with selectStatement := p.statement }, p.db) := by
  rw [onSelect, Fallible.exec_zoom, h]

/-- A call on the delete statement has its outcome, and changes nothing else of the query. -/
theorem onDelete_exec {α : Type} {m : Action (PreparedStatement .deleteById) α}
    {s : Query × Connection} {r : Except Exception α} {p : PreparedStatement .deleteById}
    (h : m.exec (deleting s) = (r, p)) :
    (onDelete m).exec s = (r, { s.1 with deleteStatement := p.statement }, p.db) := by
  rw [onDelete, Fallible.exec_zoom, h]

/-- Calls on the select statement in a row. -/
theorem onSelect_bind {α β : Type} (m : Action (PreparedStatement .select) α)
    (f : α → Action (PreparedStatement .select) β) :
    onSelect (m >>= f) = onSelect m >>= fun a => onSelect (f a) := by
  unfold onSelect
  apply Fallible.zoom_bind
  · intro s p
    rfl
  · intro s p q
    rfl

/-- Calls on the delete statement in a row. -/
theorem onDelete_bind {α β : Type} (m : Action (PreparedStatement .deleteById) α)
    (f : α → Action (PreparedStatement .deleteById) β) :
    onDelete (m >>= f) = onDelete m >>= fun a => onDelete (f a) := by
  unfold onDelete
  apply Fallible.zoom_bind
  · intro s p
    rfl
  · intro s p q
    rfl

/-- `d.status = status` -/
def setStatus (status : Status) : Method Unit := modify fun s => ({ s.1 with status }, s.2)

/-- `Query::for_application_id`; `src/core/trust/impl/sqlite3/store.cpp:566–571`. -/
def forApplicationId (id : String) : Method Unit := onSelect (PreparedStatement.bindText 1 id)

/-- `Query::for_feature`, whose argument converts to `std::int64_t`;
`src/core/trust/impl/sqlite3/store.cpp:573–578`. -/
def forFeature (feature : Feature) : Method Unit :=
  onSelect (PreparedStatement.bindInt64 2 feature.value.toInt64)

/-- `Query::for_interval`; `src/core/trust/impl/sqlite3/store.cpp:580–589`. -/
def forInterval (first last : Timestamp) : Method Unit := do
  onSelect (PreparedStatement.bindInt64 3 first)
  onSelect (PreparedStatement.bindInt64 4 last)

/-- `Query::for_answer`; `src/core/trust/impl/sqlite3/store.cpp:591–596`. -/
def forAnswer (answer : Answer) : Method Unit :=
  onSelect (PreparedStatement.bindInt 5 answer.toInt32)

/-- `Query::all`; `src/core/trust/impl/sqlite3/store.cpp:598–602`. -/
def all : Method Unit := do
  onSelect PreparedStatement.reset
  onSelect PreparedStatement.clearBindings

/-- The `switch` on the result of a step; `src/core/trust/impl/sqlite3/store.cpp:609–617`. -/
def noteResult : ResultCode → Method Unit
  | .done => setStatus .eor
  | .row => setStatus .hasMoreResults
  | _ => pure ()

/-- `Query::execute`; `src/core/trust/impl/sqlite3/store.cpp:604–618`. -/
def execute : Method Unit := do
  onSelect PreparedStatement.reset
  noteResult (← onSelect PreparedStatement.step)

/-- `Query::next`; `src/core/trust/impl/sqlite3/store.cpp:620–633`. -/
def next : Method Unit := do
  noteResult (← onSelect PreparedStatement.step)

/-- `Query::erase`; `src/core/trust/impl/sqlite3/store.cpp:635–647`. -/
def erase : Method Unit := do
  let s ← get
  if s.1.status = .eor then
    throw (.runtimeError "Cannot delete request as query points beyond the result set.")
  let id := s.1.selectStatement.columnInt 0
  onDelete PreparedStatement.reset
  onDelete (PreparedStatement.bindInt 1 id)
  let _ ← onDelete PreparedStatement.step
  next

/-- The request read from the columns of the select statement;
`src/core/trust/impl/sqlite3/store.cpp:658–673`. -/
def request (stmt : Statement .select) : Request where
  origin := stmt.columnText 1
  feature := ⟨(stmt.columnInt 2).toInt64.toUInt64⟩
  when := stmt.columnInt64 3
  answer := Answer.ofInt32 (stmt.columnInt 4)

/-- `Query::current`; `src/core/trust/impl/sqlite3/store.cpp:649–679`. -/
def current : Method Request := do
  let s ← get
  match s.1.status with
  | .error => throw .queryIsInErrorState
  | .eor => throw .noCurrentResult
  | .armed => throw .noCurrentResult
  | .hasMoreResults => return request s.1.selectStatement

/-- `Database::prepare_tagged_statement`; `src/core/trust/impl/sqlite3/store.cpp:314–331`. -/
def prepare (sql : Sql) : Action Connection (Statement sql) :=
  Fallible.ofFn fun db =>
    match db.fault with
    | some code => (.error (.runtimeError (db.engine.errorText code)), db.spend)
    | none => (.ok (Statement.prepared sql), db.spend)

/-- `Query::Query`: prepares both statements and starts out with all entries;
`src/core/trust/impl/sqlite3/store.cpp:555–559,684–689`. -/
def create : Action Connection Query := do
  let deleteStatement ← prepare .deleteById
  let selectStatement ← prepare .select
  let query : Query := ⟨.armed, selectStatement, deleteStatement⟩
  Fallible.ofFn fun db =>
    let (result, query, db) := all.exec (query, db)
    (result.map fun _ => query, db)

/-! ### What a method can do -/

/-- The row that the select statement is positioned on. -/
def position (q : Query) : Option Row := q.selectStatement.cursor.position

/-- The query with its select statement at another position and the status left alone. -/
def moved (q : Query) (cursor : Cursor) : Query :=
  { q with selectStatement := { q.selectStatement with cursor } }

/-- The query after a step that found these rows pending. -/
def delivered (q : Query) : List Row → Query
  | [] => { q.moved .done with status := .eor }
  | r :: rest => { q.moved (.row r rest) with status := .hasMoreResults }

variable (s : Query × Connection)

private theorem noteResult_advance (rows : List Row) (db : Connection) :
    (noteResult (PreparedStatement.advance rows).1).exec
      (s.1.moved (PreparedStatement.advance rows).2, db) = (.ok (), s.1.delivered rows, db) := by
  cases rows <;> rfl

/-- `next` delivers the next pending row, or it throws and halts the select statement. -/
theorem next_cases :
    s.2.fault = none ∧ next.exec s = (.ok (), s.1.delivered (selecting s).pending, s.2.spend) ∨
    ∃ code, s.2.fault = some code ∧
      ∃ e, next.exec s = (.error e, s.1.moved (.failed code), s.2.spend) := by
  rcases (selecting s).step_select_cases with ⟨hf, h⟩ | ⟨code, hf, e, h⟩
  · left
    refine ⟨hf, ?_⟩
    rw [next, Fallible.exec_bind_ok (onSelect_exec h)]
    exact noteResult_advance s (selecting s).pending s.2.spend
  · right
    refine ⟨code, hf, e, ?_⟩
    rw [next, Fallible.exec_bind_error (onSelect_exec h)]
    rfl

/-- The result set of the select statement. -/
def results : List Row :=
  s.2.engine.sort (s.2.requests.filter (selects s.1.selectStatement.bindings))

/-- `execute` delivers the first row of the result set, or it throws and leaves the select
statement unpositioned. -/
theorem execute_cases :
    (¬(selecting s).resetFails ∧ s.2.spend.fault = none) ∧
      execute.exec s = (.ok (), s.1.delivered (results s), s.2.spend.spend) ∨
    ((selecting s).resetFails ∨ s.2.spend.fault ≠ none) ∧ ∃ e cursor db,
      execute.exec s = (.error e, s.1.moved cursor, db) ∧ cursor.position = none ∧
        db.requests = s.2.requests ∧ PreparedStatement.Advances s.2 db := by
  have hexec : execute = (do onSelect PreparedStatement.reset; next) := rfl
  rcases (selecting s).reset_cases with ⟨hr, h⟩ | ⟨hr, e, h⟩
  · have hreset : execute.exec s = next.exec (s.1.moved .ready, s.2.spend) := by
      rw [hexec, Fallible.exec_bind_ok (onSelect_exec h)]
      rfl
    rcases next_cases (s.1.moved .ready, s.2.spend) with ⟨hf, hn⟩ | ⟨code, hf, e, hn⟩
    · left
      refine ⟨⟨hr, hf⟩, ?_⟩
      rw [hreset, hn]
      have hpending : (selecting (s.1.moved .ready, s.2.spend)).pending = results s := rfl
      rw [hpending]
      cases results s <;> rfl
    · right
      refine ⟨Or.inr (by simp [hf]), e, .failed code, s.2.spend.spend, ?_, rfl, rfl,
        (PreparedStatement.Advances.spend s.2).trans (PreparedStatement.Advances.spend s.2.spend)⟩
      rw [hreset, hn]
      rfl
  · right
    refine ⟨Or.inl hr, e, .ready, s.2.spend, ?_, rfl, rfl, PreparedStatement.Advances.spend s.2⟩
    rw [hexec, Fallible.exec_bind_error (onSelect_exec h)]
    rfl

/-- A query as its constructor leaves it. -/
def fresh : Query := ⟨.armed, Statement.prepared .select, Statement.prepared .deleteById⟩

private theorem prepare_cases (sql : Sql) (db : Connection) :
    (prepare sql).exec db = (.ok (Statement.prepared sql), db.spend) ∨
    db.faults ≠ [] ∧ ∃ e, (prepare sql).exec db = (.error e, db.spend) := by
  rw [prepare, Fallible.exec_ofFn]
  cases hf : db.fault with
  | none => exact Or.inl rfl
  | some code =>
    refine Or.inr ⟨?_, _, rfl⟩
    intro h
    simp [Connection.fault_eq_none h] at hf

private theorem all_fresh_cases (db : Connection) :
    all.exec (fresh, db) = (.ok (), fresh, db.spend.spend) ∨
    db.faults ≠ [] ∧ ∃ e q faults, all.exec (fresh, db) = (.error e, q, { db with faults }) := by
  rw [all]
  rcases (selecting (fresh, db)).reset_cases with ⟨_, h⟩ | ⟨hr, e, h⟩
  · rw [Fallible.exec_bind_ok (onSelect_exec h)]
    rcases (selecting (fresh, db.spend)).clearBindings_cases with ⟨_, h⟩ | ⟨hf, e, h⟩
    · left
      exact onSelect_exec h
    · right
      refine ⟨?_, e, fresh, db.spend.spend.faults, onSelect_exec h⟩
      intro hnil
      apply hf
      exact Connection.fault_eq_none (by simp [selecting, hnil])
  · right
    refine ⟨?_, e, fresh, db.spend.faults, Fallible.exec_bind_error (onSelect_exec h)⟩
    intro hnil
    rcases hr with hr | hr
    · exact hr (Connection.fault_eq_none hnil)
    · exact hr rfl

/-- A query is created fresh, or not at all; either way the table stays. -/
theorem create_cases (db : Connection) :
    create.exec db = (.ok fresh, db.spend.spend.spend.spend) ∨
    db.faults ≠ [] ∧ ∃ e faults, create.exec db = (.error e, { db with faults }) := by
  have hnil : ∀ {db : Connection}, db.spend.faults ≠ [] → db.faults ≠ [] := by
    intro db h hdb
    simp [hdb] at h
  rw [create]
  rcases prepare_cases .deleteById db with h | ⟨hf, e, h⟩
  · rw [Fallible.exec_bind_ok h]
    rcases prepare_cases .select db.spend with h | ⟨hf, e, h⟩
    · rw [Fallible.exec_bind_ok h, Fallible.exec_ofFn]
      rcases all_fresh_cases db.spend.spend with h | ⟨hf, e, q, faults, h⟩
      · left
        rw [fresh] at h
        simp only [h]
        rfl
      · right
        rw [fresh] at h
        simp only [h]
        exact ⟨hnil (hnil hf), e, faults, rfl⟩
    · right
      exact ⟨hnil hf, e, db.spend.spend.faults, Fallible.exec_bind_error h⟩
  · right
    exact ⟨hf, e, db.spend.faults, Fallible.exec_bind_error h⟩

end Query
end TrustStore.Sqlite
