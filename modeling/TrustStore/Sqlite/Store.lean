import TrustStore.Sqlite.Encoding

/-!
# The SQLite store

Models `sqlite::Store`, `src/core/trust/impl/sqlite3/store.cpp:340–801`, as an
implementation of the store interface. The store's own statements live as long as the
store; queries are created and destroyed by their users.
-/

namespace TrustStore.Sqlite

open TrustStore.Base

/-- Names of the queries made on a store. -/
abbrev QueryId := Nat

/-- `sqlite::Store`, with the queries made on it;
`src/core/trust/impl/sqlite3/store.cpp:704–726`. -/
structure Store where
  db : Connection
  deleteStatement : Statement .delete
  insertStatement : Statement .insert
  removeApplicationStatement : Statement .removeApplication
  queries : QueryId → Query
  nextQuery : QueryId

namespace Store

/-- `Store::Store` on a database whose table exists;
`src/core/trust/impl/sqlite3/store.cpp:735–744`. -/
def onConnection (db : Connection) : Store where
  db := db
  deleteStatement := Statement.prepared .delete
  insertStatement := Statement.prepared .insert
  removeApplicationStatement := Statement.prepared .removeApplication
  queries := fun _ => default
  nextQuery := 0

/-- A store on a new database, where no call fails for a reason of its own. -/
def empty (engine : Engine) : Store := onConnection ⟨engine, [], []⟩

/-- A call on the delete statement. -/
def onDelete {α : Type} : Action (PreparedStatement .delete) α → Action Store α :=
  Fallible.zoom (fun s => ⟨s.db, s.deleteStatement⟩)
    (fun s p => { s with db := p.db, deleteStatement := p.statement })

/-- A call on the insert statement. -/
def onInsert {α : Type} : Action (PreparedStatement .insert) α → Action Store α :=
  Fallible.zoom (fun s => ⟨s.db, s.insertStatement⟩)
    (fun s p => { s with db := p.db, insertStatement := p.statement })

/-- A call on the remove-application statement. -/
def onRemoveApplication {α : Type} :
    Action (PreparedStatement .removeApplication) α → Action Store α :=
  Fallible.zoom (fun s => ⟨s.db, s.removeApplicationStatement⟩)
    (fun s p => { s with db := p.db, removeApplicationStatement := p.statement })

/-- A call on one of the queries. -/
def onQuery {α : Type} (q : QueryId) : Query.Method α → Action Store α :=
  Fallible.zoom (fun s => (s.queries q, s.db))
    (fun s r => { s with db := r.2, queries := Function.update s.queries q r.1 })

/-- `Store::reset`; `src/core/trust/impl/sqlite3/store.cpp:768–779`. -/
def reset : Action Store Unit :=
  tryCatch
    (do
      onDelete PreparedStatement.reset
      let _ ← onDelete PreparedStatement.step)
    fun e => if e.isRuntimeError then throw (.errorResettingStore e.what) else throw e

/-- `Store::add`, where the feature converts to `std::int32_t`;
`src/core/trust/impl/sqlite3/store.cpp:782–792`. -/
def add (request : Request) : Action Store Unit := do
  onInsert PreparedStatement.reset
  onInsert (PreparedStatement.bindText 1 request.origin)
  onInsert (PreparedStatement.bindInt 2 request.feature.value.toInt64.toInt32)
  onInsert (PreparedStatement.bindInt64 3 request.when)
  onInsert (PreparedStatement.bindInt 4 request.answer.toInt32)
  let _ ← onInsert PreparedStatement.step

/-- `Store::remove_application`; `src/core/trust/impl/sqlite3/store.cpp:794–801`. -/
def removeApplication (id : String) : Action Store Unit := do
  onRemoveApplication PreparedStatement.reset
  onRemoveApplication (PreparedStatement.bindText 1 id)
  let _ ← onRemoveApplication PreparedStatement.step

/-- `Store::query`; `src/core/trust/impl/sqlite3/store.cpp:803–806`. -/
def query : Action Store QueryId :=
  Fallible.ofFn fun s =>
    let (result, db) := Query.create.exec s.db
    match result with
    | .ok query => (.ok s.nextQuery, { s with
        db := db
        queries := Function.update s.queries s.nextQuery query
        nextQuery := s.nextQuery + 1 })
    | .error e => (.error e, { s with db := db })

/-- `Query::~Query` finalizes both statements. -/
def destroy (q : QueryId) (s : Store) : Store :=
  { s with queries := Function.update s.queries q default }

/-- The SQLite store as an implementation of the interface. -/
def interface : TrustStore.Store Store QueryId where
  reset := reset
  add := add
  removeApplication := removeApplication
  query := query
  destroy := destroy
  status q := do return ((← get).queries q).status
  forApplicationId q id := onQuery q (Query.forApplicationId id)
  forFeature q feature := onQuery q (Query.forFeature feature)
  forInterval q first last := onQuery q (Query.forInterval first last)
  forAnswer q answer := onQuery q (Query.forAnswer answer)
  all q := onQuery q Query.all
  execute q := onQuery q Query.execute
  next q := onQuery q Query.next
  erase q := onQuery q Query.erase
  current q := onQuery q Query.current

/-! ### Adding a request -/

end Store

namespace PreparedStatement

/-- The calls with which `Store::add` inserts a row. -/
def insertRow (request : Request) : Action (PreparedStatement .insert) ResultCode := do
  reset
  bindText 1 request.origin
  bindInt 2 request.feature.value.toInt64.toInt32
  bindInt64 3 request.when
  bindInt 4 request.answer.toInt32
  step

variable (p : PreparedStatement .insert) (request : Request)

/-- The application id of the next row: the empty text leaves the one bound before. -/
def boundId : Value :=
  if request.origin = "" then p.statement.bindings 1 else .text request.origin

/-- The row that `add` appends. -/
def addedRow : Row :=
  { Row.ofRequest (p.db.engine.rowid p.db.requests) request with
    applicationId := p.boundId request }

private theorem step_staged {p q : PreparedStatement .insert} {bindings : Bindings}
    (hq : Staged p q bindings) :
    (∃ r, step.exec q = (.ok .done, r) ∧ r.statement.cursor = .done ∧ Advances p.db r.db ∧
      r.db.requests = p.db.requests ++ [⟨p.db.engine.rowid p.db.requests, bindings 1,
        bindings 2, bindings 3, bindings 4⟩]) ∨
    Aborted p (step.exec q) ∧ (p.db.faults ≠ [] ∨ bindings 1 = .null) := by
  rcases step_insert_cases hq.cursor with ⟨_, h⟩ | ⟨hf, e, code, h⟩
  · left
    refine ⟨_, h, rfl, ⟨hq.advances.engine, fun hnil => ?_⟩, ?_⟩
    · simp [hq.advances.faults hnil]
    · simp [inserted, hq.bound, hq.requests, hq.advances.engine]
  · right
    refine ⟨⟨e, _, h, hq.advances.trans (Advances.spend _), hq.requests⟩, ?_⟩
    by_cases hnil : p.db.faults = []
    · right
      by_contra hnull
      exact hf ⟨Connection.fault_eq_none (hq.advances.faults hnil), hq.bound ▸ hnull⟩
    · exact Or.inl hnil

/-- The row of a request is appended, or an exception leaves the table alone. -/
theorem insertRow_cases (p : PreparedStatement .insert) (request : Request) :
    (p.statement.cursor.errorCode = none ∧
      ∃ q, (insertRow request).exec p = (.ok .done, q) ∧ q.statement.cursor = .done ∧
      Advances p.db q.db ∧ q.db.requests = p.db.requests ++ [p.addedRow request]) ∨
    Aborted p ((insertRow request).exec p) ∧ (p.db.faults ≠ [] ∨
      p.statement.cursor.errorCode ≠ none ∨ p.boundId request = .null) := by
  simp only [insertRow, bindInt_eq]
  rcases p.reset_staged with ⟨q₀, h, hcode, hq₀⟩ | ⟨h, hr⟩
  · rw [Fallible.exec_bind_ok h]
    rcases bindText_staged hq₀ 1 request.origin with ⟨q₁, h, hq₁⟩ | ⟨h, hf⟩
    · rw [Fallible.exec_bind_ok h]
      rcases bindInt64_staged hq₁ 2 (featureColumn request.feature) with ⟨q₂, h, hq₂⟩ | ⟨h, hf⟩
      · rw [featureColumn] at h
        rw [Fallible.exec_bind_ok h]
        rcases bindInt64_staged hq₂ 3 request.when with ⟨q₃, h, hq₃⟩ | ⟨h, hf⟩
        · rw [Fallible.exec_bind_ok h]
          rcases bindInt64_staged hq₃ 4 request.answer.toInt32.toInt64 with
            ⟨q₄, h, hq₄⟩ | ⟨h, hf⟩
          · rw [Fallible.exec_bind_ok h]
            rcases step_staged hq₄ with ⟨q₅, h, hdone, hadv, hreq⟩ | ⟨h, hf⟩
            · left
              refine ⟨hcode, q₅, h, hdone, hadv, ?_⟩
              rw [hreq, addedRow, boundId]
              split <;> simp [Row.ofRequest]
            · right
              refine ⟨h, hf.imp_right fun hnull => Or.inr ?_⟩
              rw [boundId]
              revert hnull
              split <;> simp
          · exact Or.inr ⟨h.bind, Or.inl hf⟩
        · exact Or.inr ⟨h.bind, Or.inl hf⟩
      · exact Or.inr ⟨h.bind, Or.inl hf⟩
    · exact Or.inr ⟨h.bind, Or.inl hf⟩
  · exact Or.inr ⟨h.bind, hr.imp_right Or.inl⟩

end PreparedStatement

namespace Store

/-- Calls on the insert statement in a row. -/
theorem onInsert_bind {α β : Type} (m : Action (PreparedStatement .insert) α)
    (f : α → Action (PreparedStatement .insert) β) :
    onInsert (m >>= f) = onInsert m >>= fun a => onInsert (f a) := by
  unfold onInsert
  apply Fallible.zoom_bind
  · intro s p
    rfl
  · intro s p q
    rfl

/-- Calls on the statement that deletes all rows in a row. -/
theorem onDelete_bind {α β : Type} (m : Action (PreparedStatement .delete) α)
    (f : α → Action (PreparedStatement .delete) β) :
    onDelete (m >>= f) = onDelete m >>= fun a => onDelete (f a) := by
  unfold onDelete
  apply Fallible.zoom_bind
  · intro s p
    rfl
  · intro s p q
    rfl

/-- Calls on the statement that deletes the rows of an application in a row. -/
theorem onRemoveApplication_bind {α β : Type}
    (m : Action (PreparedStatement .removeApplication) α)
    (f : α → Action (PreparedStatement .removeApplication) β) :
    onRemoveApplication (m >>= f) =
      onRemoveApplication m >>= fun a => onRemoveApplication (f a) := by
  unfold onRemoveApplication
  apply Fallible.zoom_bind
  · intro s p
    rfl
  · intro s p q
    rfl

/-- A call on a query has its outcome, and changes nothing else but the connection. -/
theorem onQuery_exec {α : Type} {m : Query.Method α} {s : Store} {q : QueryId}
    {r : Except Exception α} {query : Query} {db : Connection}
    (h : m.exec (s.queries q, s.db) = (r, query, db)) :
    (onQuery q m).exec s =
      (r, { s with db := db, queries := Function.update s.queries q query }) := by
  rw [onQuery, Fallible.exec_zoom, h]

/-- Calls on a query in a row. -/
theorem onQuery_bind {α β : Type} (q : QueryId) (m : Query.Method α) (f : α → Query.Method β) :
    onQuery q (m >>= f) = onQuery q m >>= fun a => onQuery q (f a) := by
  unfold onQuery
  apply Fallible.zoom_bind
  · intro s p
    simp
  · intro s p p'
    simp

/-- `add` is a call on the insert statement. -/
theorem add_eq (request : Request) :
    add request = onInsert (PreparedStatement.insertRow request) >>= fun _ => pure () := by
  simp only [add, PreparedStatement.insertRow, onInsert_bind, bind_assoc]

/-- The insert statement with the connection of the store. -/
def inserting (s : Store) : PreparedStatement .insert := ⟨s.db, s.insertStatement⟩

/-- Nothing but the connection and the insert statement changed. -/
structure OnlyInserts (s t : Store) : Prop extends PreparedStatement.Advances s.db t.db where
  queries : t.queries = s.queries
  nextQuery : t.nextQuery = s.nextQuery

/-- `add` appends the row of a request, or it throws and leaves the table alone. It always
throws after an insertion that was halted. -/
theorem add_cases (s : Store) (request : Request) :
    (s.insertStatement.cursor.errorCode = none ∧
      ∃ t, (add request).exec s = (.ok (), t) ∧ OnlyInserts s t ∧
      t.insertStatement.cursor.errorCode = none ∧
      t.db.requests = s.db.requests ++ [s.inserting.addedRow request]) ∨
    (∃ e t, (add request).exec s = (.error e, t) ∧ OnlyInserts s t ∧
      t.db.requests = s.db.requests ∧ (s.db.faults ≠ [] ∨
        s.insertStatement.cursor.errorCode ≠ none ∨ s.inserting.boundId request = .null)) := by
  rw [add_eq]
  rcases s.inserting.insertRow_cases request with ⟨hcode, q, h, hdone, hadv, hreq⟩ |
    ⟨⟨e, q, h, hadv, hreq⟩, hwhy⟩
  · left
    refine ⟨hcode, { s with db := q.db, insertStatement := q.statement }, ?_, ⟨hadv, rfl, rfl⟩,
      ?_, hreq⟩
    · rw [inserting] at h
      simp [onInsert, h, Except.map]
    · simp [hdone, Cursor.errorCode]
  · right
    refine ⟨e, { s with db := q.db, insertStatement := q.statement }, ?_, ⟨hadv, rfl, rfl⟩, hreq,
      hwhy⟩
    rw [inserting] at h
    simp [onInsert, h, Except.map]

/-- An application id is bound. -/
theorem boundId_ne_null (s : Store) {request : Request} (hid : request.origin ≠ "") :
    s.inserting.boundId request ≠ .null := by
  simp [PreparedStatement.boundId, hid]

/-- With an application id the row is that of the request. -/
theorem addedRow_eq (s : Store) {request : Request} (hid : request.origin ≠ "") :
    s.inserting.addedRow request =
      Row.ofRequest (s.db.engine.rowid s.db.requests) request := by
  simp [PreparedStatement.addedRow, PreparedStatement.boundId, hid, inserting, Row.ofRequest]

end Store
end TrustStore.Sqlite
