import TrustStore.Sqlite.Library

/-!
# Prepared statements

Models the SQLite C interface of a prepared statement and the `PreparedStatement` class,
`src/core/trust/impl/sqlite3/store.cpp:77–236`. A statement keeps its bindings and its
position from call to call; a parameter may be bound only while the statement is reset.
-/

namespace TrustStore.Sqlite

open TrustStore.Base

/-- The statements of the store and of its queries;
`src/core/trust/impl/sqlite3/store.cpp:453–551`. -/
inductive Sql where
  /-- `DELETE FROM requests` -/
  | delete
  /-- `INSERT INTO requests ('ApplicationId','Feature','Timestamp','Answer') VALUES (?,?,?,?);` -/
  | insert
  /-- `DELETE FROM requests WHERE ApplicationId=?;` -/
  | removeApplication
  /-- `DELETE FROM requests WHERE Id=?;` -/
  | deleteById
  /-- `SELECT * FROM requests WHERE ApplicationId=IFNULL(?,ApplicationId) AND
  Feature=IFNULL(?,Feature) AND
  (Timestamp BETWEEN IFNULL(?, Timestamp) AND IFNULL(?,Timestamp)) AND
  Answer=IFNULL(?,Answer) ORDER BY Timestamp DESC;` -/
  | select
  deriving DecidableEq, Repr, Inhabited

/-- The values bound to the parameters of a statement, by index. -/
abbrev Bindings := Nat → Value

/-- `sqlite3_clear_bindings` and preparing set every parameter to `NULL`. -/
def Bindings.none : Bindings := fun _ => .null

/-- The `WHERE` clause of the select statement. -/
def selects (p : Bindings) (r : Row) : Bool :=
  r.applicationId.equals ((p 1).ifNull r.applicationId) &&
  r.feature.equals ((p 2).ifNull r.feature) &&
  r.timestamp.between ((p 3).ifNull r.timestamp) ((p 4).ifNull r.timestamp) &&
  r.answer.equals ((p 5).ifNull r.answer)

/-- Result codes of the C interface. Every code but `SQLITE_OK`, `SQLITE_ROW` and
`SQLITE_DONE` is an error, `is_error`; `src/core/trust/impl/sqlite3/store.cpp:61–73`. -/
inductive ResultCode where
  | ok
  | row
  | done
  | failure (code : Nat)
  deriving DecidableEq, Repr

/-- `SQLITE_CONSTRAINT_NOTNULL`, with extended result codes on. -/
def constraintNotNull : Nat := 1299

/-- `SQLITE_MISUSE`. -/
def misuse : Nat := 21

/-- Where a statement stands: reset, on a row with the rest of its result set, at the end
of its result set, or halted by an error. -/
inductive Cursor where
  | ready
  | row (current : Row) (rest : List Row)
  | done
  | failed (code : Nat)
  deriving DecidableEq, Repr, Inhabited

/-- The row a statement is positioned on. -/
def Cursor.position : Cursor → Option Row
  | row r _ => some r
  | _ => none

/-- The error that halted a statement. -/
def Cursor.errorCode : Cursor → Option Nat
  | failed code => some code
  | _ => none

/-- The rows that a statement has materialised. -/
def Cursor.rows : Cursor → List Row
  | row r rest => r :: rest
  | _ => []

/-- A prepared statement, `TaggedPreparedStatement`, tagged with its text;
`src/core/trust/impl/sqlite3/store.cpp:238–250`. -/
structure Statement (sql : Sql) where
  bindings : Bindings
  cursor : Cursor

/-- A database connection, `sqlite3`, with its requests table. The head of `faults` is the
failure, if any, that the next call meets for a reason outside this model; `[]` means
that no further call meets one. -/
structure Connection where
  engine : Engine
  requests : List Row
  faults : List (Option Nat)

namespace Connection

/-- The failure that the next call meets, if any. -/
def fault (db : Connection) : Option Nat := db.faults.head?.join

/-- The connection after one more call. -/
def spend (db : Connection) : Connection := { db with faults := db.faults.tail }

/-- Without failures to come the next call meets none. -/
theorem fault_eq_none {db : Connection} (h : db.faults = []) : db.fault = none := by
  simp [fault, h]

@[simp] theorem spend_requests (db : Connection) : db.spend.requests = db.requests := rfl

@[simp] theorem spend_engine (db : Connection) : db.spend.engine = db.engine := rfl

@[simp] theorem spend_faults (db : Connection) : db.spend.faults = db.faults.tail := rfl

end Connection

/-- A freshly prepared statement. -/
def Statement.prepared (sql : Sql) : Statement sql := ⟨Bindings.none, .ready⟩

instance (sql : Sql) : Inhabited (Statement sql) := ⟨Statement.prepared sql⟩

/-- A statement together with its connection, the members of `PreparedStatement`. -/
structure PreparedStatement (sql : Sql) where
  db : Connection
  statement : Statement sql

namespace PreparedStatement

variable {sql : Sql}

/-- A call of the C interface: the failure it meets, or its ordinary effect. -/
def api (onFault : Nat → Statement sql → Statement sql)
    (act : PreparedStatement sql → ResultCode × PreparedStatement sql)
    (p : PreparedStatement sql) : ResultCode × PreparedStatement sql :=
  match p.db.fault with
  | some code => (.failure code, ⟨p.db.spend, onFault code p.statement⟩)
  | none => act ⟨p.db.spend, p.statement⟩

/-- `sqlite3_bind_*`: misuse unless the statement is reset. -/
def sqlite3Bind (index : Nat) (value : Value) :
    PreparedStatement sql → ResultCode × PreparedStatement sql :=
  api (fun _ stmt => stmt) fun p =>
    match p.statement.cursor with
    | .ready => (.ok, { p with
        statement.bindings := Function.update p.statement.bindings index value })
    | _ => (.failure misuse, p)

/-- `sqlite3_clear_bindings`. -/
def sqlite3ClearBindings : PreparedStatement sql → ResultCode × PreparedStatement sql :=
  api (fun _ stmt => stmt) fun p => (.ok, { p with statement.bindings := Bindings.none })

/-- `sqlite3_reset`: unpositions the statement in any case and keeps its bindings, but
reports the error of the most recent failed step. -/
def sqlite3Reset : PreparedStatement sql → ResultCode × PreparedStatement sql :=
  api (fun _ stmt => { stmt with cursor := .ready }) fun p =>
    (match p.statement.cursor.errorCode with
      | some code => .failure code
      | none => .ok, { p with statement.cursor := .ready })

/-- The next row of a result set, or its end. -/
def advance : List Row → ResultCode × Cursor
  | [] => (.done, .done)
  | r :: rest => (.row, .row r rest)

/-- Start the execution of a statement. The ordered result set of the select statement is
materialised here. -/
def start (p : PreparedStatement sql) : ResultCode × PreparedStatement sql :=
  let bindings := p.statement.bindings
  match sql with
  | .delete =>
    (.done, { p with statement.cursor := .done, db.requests := [] })
  | .insert =>
    if bindings 1 = .null then
      (.failure constraintNotNull, { p with statement.cursor := .failed constraintNotNull })
    else
      (.done, { p with
        statement.cursor := .done
        db.requests := p.db.requests ++
          [⟨p.db.engine.rowid p.db.requests, bindings 1, bindings 2, bindings 3, bindings 4⟩] })
  | .removeApplication =>
    (.done, { p with
      statement.cursor := .done
      db.requests := p.db.requests.filter fun r => !r.applicationId.equals (bindings 1) })
  | .deleteById =>
    (.done, { p with
      statement.cursor := .done
      db.requests := p.db.requests.filter fun r => !(Value.integer r.id).equals (bindings 1) })
  | .select =>
    let (result, cursor) := advance (p.db.engine.sort (p.db.requests.filter (selects bindings)))
    (result, { p with statement.cursor := cursor })

/-- `sqlite3_step`: on a row it moves to the next one, otherwise it starts the statement
again, resetting it first where necessary. -/
def sqlite3Step : PreparedStatement sql → ResultCode × PreparedStatement sql :=
  api (fun code stmt => { stmt with cursor := .failed code }) fun p =>
    match p.statement.cursor with
    | .row _ rest => ((advance rest).1, { p with statement.cursor := (advance rest).2 })
    | _ => start p

/-- Check a result code; throws as `src/core/trust/impl/sqlite3/store.cpp:129–133`. -/
def check (call : PreparedStatement sql → ResultCode × PreparedStatement sql) :
    Action (PreparedStatement sql) ResultCode :=
  Fallible.ofFn fun p =>
    let (result, q) := call p
    match result with
    | .failure code => (.error (.runtimeError (q.db.engine.errorText code)), q)
    | _ => (.ok result, q)

/-- `PreparedStatement::bind_text`; `src/core/trust/impl/sqlite3/store.cpp:143–159`. -/
def bindText (index : Nat) (s : String) : Action (PreparedStatement sql) Unit := do
  if s.isEmpty then
    return
  let _ ← check (sqlite3Bind index (.text s))

/-- `PreparedStatement::bind_int`; `src/core/trust/impl/sqlite3/store.cpp:161–169`. -/
def bindInt (index : Nat) (i : Int32) : Action (PreparedStatement sql) Unit := do
  let _ ← check (sqlite3Bind index (.integer i.toInt64))

/-- `PreparedStatement::bind_int64`; `src/core/trust/impl/sqlite3/store.cpp:171–179`. -/
def bindInt64 (index : Nat) (i : Int64) : Action (PreparedStatement sql) Unit := do
  let _ ← check (sqlite3Bind index (.integer i))

/-- `PreparedStatement::reset`; `src/core/trust/impl/sqlite3/store.cpp:200–207`. -/
def reset : Action (PreparedStatement sql) Unit := do
  let _ ← check sqlite3Reset

/-- `PreparedStatement::clear_bindings`; `src/core/trust/impl/sqlite3/store.cpp:209–216`. -/
def clearBindings : Action (PreparedStatement sql) Unit := do
  let _ ← check sqlite3ClearBindings

/-- `PreparedStatement::step`; `src/core/trust/impl/sqlite3/store.cpp:218–227`. -/
def step : Action (PreparedStatement sql) ResultCode := check sqlite3Step

/-! ### What one call can do -/

variable (p : PreparedStatement sql)

/-- The statement with other bindings, after the call that changed them. -/
def rebound (bindings : Bindings) : PreparedStatement sql :=
  ⟨p.db.spend, { p.statement with bindings }⟩

/-- The statement at another position, after the call that moved it. -/
def moved (cursor : Cursor) : PreparedStatement sql :=
  ⟨p.db.spend, { p.statement with cursor }⟩

/-- The statement as it was, after a call that failed. -/
def untouched : PreparedStatement sql := ⟨p.db.spend, p.statement⟩

/-- Whether the next call to bind a parameter fails. -/
def bindFails : Prop := p.db.fault ≠ none ∨ p.statement.cursor ≠ .ready

instance : Decidable p.bindFails := inferInstanceAs (Decidable (_ ∨ _))

/-- Whether the next call to reset the statement reports an error. -/
def resetFails : Prop := p.db.fault ≠ none ∨ p.statement.cursor.errorCode ≠ none

instance : Decidable p.resetFails := inferInstanceAs (Decidable (_ ∨ _))

/-- The rows that the next step of a select statement finds. -/
def pending (p : PreparedStatement .select) : List Row :=
  match p.statement.cursor with
  | .row _ rest => rest
  | _ => p.db.engine.sort (p.db.requests.filter (selects p.statement.bindings))

private theorem check_bind (index : Nat) (value : Value) :
    ¬p.bindFails ∧ (check (sqlite3Bind index value)).exec p =
        (.ok .ok, p.rebound (Function.update p.statement.bindings index value)) ∨
    p.bindFails ∧ ∃ e, (check (sqlite3Bind index value)).exec p = (.error e, p.untouched) := by
  simp only [check, sqlite3Bind, api, Fallible.exec_ofFn, bindFails]
  cases hf : p.db.fault with
  | some code => simp [untouched]
  | none => cases hc : p.statement.cursor <;> simp [untouched, rebound, hc]

/-- Binding a text: nothing happens for the empty text, otherwise the parameter is bound
or an exception leaves it alone. -/
theorem bindText_cases (index : Nat) (s : String) :
    s = "" ∧ (bindText index s).exec p = (.ok (), p) ∨
    s ≠ "" ∧ ¬p.bindFails ∧ (bindText index s).exec p =
      (.ok (), p.rebound (Function.update p.statement.bindings index (.text s))) ∨
    s ≠ "" ∧ p.bindFails ∧ ∃ e, (bindText index s).exec p = (.error e, p.untouched) := by
  by_cases hs : s = ""
  · left
    subst hs
    exact ⟨rfl, rfl⟩
  · right
    have he : s.isEmpty = false := by simpa using hs
    rcases check_bind p index (.text s) with ⟨hp, h⟩ | ⟨hp, e, h⟩
    · left
      refine ⟨hs, hp, ?_⟩
      simp [bindText, he, h, Except.map]
    · right
      refine ⟨hs, hp, e, ?_⟩
      simp [bindText, he, h, Except.map]

/-- Binding an integer: the parameter is bound or an exception leaves it alone. -/
theorem bindInt64_cases (index : Nat) (i : Int64) :
    ¬p.bindFails ∧ (bindInt64 index i).exec p =
      (.ok (), p.rebound (Function.update p.statement.bindings index (.integer i))) ∨
    p.bindFails ∧ ∃ e, (bindInt64 index i).exec p = (.error e, p.untouched) := by
  rcases check_bind p index (.integer i) with ⟨hp, h⟩ | ⟨hp, e, h⟩
  · left
    refine ⟨hp, ?_⟩
    simp [bindInt64, h, Except.map]
  · right
    refine ⟨hp, e, ?_⟩
    simp [bindInt64, h, Except.map]

/-- A 32-bit integer is bound as its sign extension. -/
theorem bindInt_eq (index : Nat) (i : Int32) :
    (bindInt index i : Action (PreparedStatement sql) Unit) = bindInt64 index i.toInt64 := rfl

/-- A reset unpositions the statement in any case, and keeps its bindings. -/
theorem reset_cases :
    ¬p.resetFails ∧ reset.exec p = (.ok (), p.moved .ready) ∨
    p.resetFails ∧ ∃ e, reset.exec p = (.error e, p.moved .ready) := by
  simp only [reset, check, sqlite3Reset, api, Fallible.exec_ofFn, Fallible.exec_bind,
    Fallible.exec_pure, resetFails]
  cases hf : p.db.fault with
  | some code => simp [moved]
  | none => cases hc : p.statement.cursor.errorCode <;> simp [moved]

/-- Clearing the bindings sets every parameter to `NULL`, unless the call fails. -/
theorem clearBindings_cases :
    p.db.fault = none ∧ clearBindings.exec p = (.ok (), p.rebound Bindings.none) ∨
    p.db.fault ≠ none ∧ ∃ e, clearBindings.exec p = (.error e, p.untouched) := by
  simp only [clearBindings, check, sqlite3ClearBindings, api, Fallible.exec_ofFn,
    Fallible.exec_bind, Fallible.exec_pure]
  cases hf : p.db.fault with
  | some code => simp [untouched]
  | none => simp [rebound]

/-- Moving to the next row of a result set is no failure. -/
private theorem advance_ne_failure (rows : List Row) (code : Nat) :
    (advance rows).1 ≠ .failure code := by
  cases rows <;> simp [advance]

private theorem sqlite3Step_select {p : PreparedStatement .select} (hf : p.db.fault = none) :
    sqlite3Step p = ((advance p.pending).1, p.moved (advance p.pending).2) := by
  cases hc : p.statement.cursor <;> simp [sqlite3Step, api, hf, hc, pending, moved, start]

/-- A step of the select statement delivers the next pending row or halts the statement;
the table stays. -/
theorem step_select_cases (p : PreparedStatement .select) :
    p.db.fault = none ∧ step.exec p =
      (.ok (advance p.pending).1, p.moved (advance p.pending).2) ∨
    ∃ code, p.db.fault = some code ∧ ∃ e, step.exec p = (.error e, p.moved (.failed code)) := by
  cases hf : p.db.fault with
  | some code =>
    right
    simp [step, check, sqlite3Step, api, hf, moved]
  | none =>
    left
    refine ⟨rfl, ?_⟩
    simp only [step, check, Fallible.exec_ofFn, sqlite3Step_select hf]
    split
    next code hcode => exact absurd hcode (advance_ne_failure _ code)
    next => rfl

/-- The row that an insert statement adds. -/
def inserted (p : PreparedStatement .insert) : Row :=
  ⟨p.db.engine.rowid p.db.requests, p.statement.bindings 1, p.statement.bindings 2,
    p.statement.bindings 3, p.statement.bindings 4⟩

/-- A step that starts a reset statement and gets to its end leaves the rows that the statement
says, unless the call fails. -/
theorem step_start_cases {p : PreparedStatement sql} {rows : List Row}
    (hc : p.statement.cursor = .ready)
    (hstart : start ⟨p.db.spend, p.statement⟩ =
      (.done, ⟨{ p.db.spend with requests := rows }, { p.statement with cursor := .done }⟩)) :
    p.db.fault = none ∧ step.exec p =
      (.ok .done, ⟨{ p.db.spend with requests := rows }, { p.statement with cursor := .done }⟩) ∨
    p.db.fault ≠ none ∧ ∃ e code, step.exec p = (.error e, p.moved (.failed code)) := by
  simp only [step, check, sqlite3Step, api, Fallible.exec_ofFn]
  cases hf : p.db.fault with
  | some code =>
    right
    simp [moved]
  | none =>
    left
    simp [hc, hstart]

/-- A statement that is started is halted only if its start fails. -/
private theorem errorCode_of_start {p : PreparedStatement sql}
    (h : ∀ code, (start p).1 ≠ .failure code) : (start p).2.statement.cursor.errorCode = none := by
  cases sql with
  | delete => rfl
  | insert =>
    rw [start] at h ⊢
    by_cases hn : p.statement.bindings 1 = .null
    · have hnull := h constraintNotNull
      simp [hn] at hnull
    · simp [hn, Cursor.errorCode]
  | removeApplication => rfl
  | deleteById => rfl
  | select =>
    rw [start]
    cases p.db.engine.sort (p.db.requests.filter (selects p.statement.bindings)) <;> rfl

/-- A statement is not halted after a step that returned. -/
theorem errorCode_of_step {p q : PreparedStatement sql} {result : ResultCode}
    (h : step.exec p = (.ok result, q)) : q.statement.cursor.errorCode = none := by
  have hstep : ∀ code, (sqlite3Step p).1 ≠ .failure code := by
    intro code hcode
    simp [step, check, hcode] at h
  have hq : q = (sqlite3Step p).2 := by
    simp only [step, check, Fallible.exec_ofFn] at h
    exact (Prod.mk.inj h).2.symm
  rw [hq]
  rw [sqlite3Step, api] at hstep ⊢
  cases hf : p.db.fault with
  | some code =>
    rw [hf] at hstep
    exact absurd rfl (hstep code)
  | none =>
    rw [hf] at hstep
    cases hc : p.statement.cursor with
    | row current rest => cases rest <;> rfl
    | ready | done | failed _ =>
      simp only [hc] at hstep ⊢
      exact errorCode_of_start hstep

/-- A step of a reset insert statement appends one row, unless the id is missing or the
call fails; then the table stays. -/
theorem step_insert_cases {p : PreparedStatement .insert} (hc : p.statement.cursor = .ready) :
    (p.db.fault = none ∧ p.statement.bindings 1 ≠ .null) ∧
      step.exec p = (.ok .done, ⟨{ p.db.spend with requests := p.db.requests ++ [p.inserted] },
        { p.statement with cursor := .done }⟩) ∨
    ¬(p.db.fault = none ∧ p.statement.bindings 1 ≠ .null) ∧
      ∃ e code, step.exec p = (.error e, p.moved (.failed code)) := by
  simp only [step, check, sqlite3Step, api, Fallible.exec_ofFn]
  cases hf : p.db.fault with
  | some code =>
    right
    simp [moved]
  | none =>
    by_cases hn : p.statement.bindings 1 = .null
    · right
      simp [hc, start, hn, moved]
    · left
      simp [hc, start, hn, inserted]

/-! ### Calls in a row -/

/-- The connection keeps everything but its rows and the failures still to come. -/
structure Advances (db db' : Connection) : Prop where
  engine : db'.engine = db.engine
  faults : db.faults = [] → db'.faults = []

/-- One more call. -/
theorem Advances.spend (db : Connection) : Advances db db.spend :=
  ⟨rfl, fun h => by simp [h]⟩

/-- Calls in a row. -/
theorem Advances.trans {db₁ db₂ db₃ : Connection} (h : Advances db₁ db₂)
    (h' : Advances db₂ db₃) : Advances db₁ db₃ :=
  ⟨h'.engine.trans h.engine, fun hf => h'.faults (h.faults hf)⟩

/-- The statement is reset and has these bindings, and the table is as it was. -/
structure Staged (p q : PreparedStatement sql) (bindings : Bindings) : Prop where
  cursor : q.statement.cursor = .ready
  bound : q.statement.bindings = bindings
  advances : Advances p.db q.db
  requests : q.db.requests = p.db.requests

/-- A call threw before the table changed. -/
def Aborted {α : Type} (p : PreparedStatement sql)
    (outcome : Except Exception α × PreparedStatement sql) : Prop :=
  ∃ e q, outcome = (.error e, q) ∧ Advances p.db q.db ∧ q.db.requests = p.db.requests

/-- A reset statement keeps its bindings, unless the reset throws. -/
theorem reset_staged :
    (∃ q, reset.exec p = (.ok (), q) ∧ p.statement.cursor.errorCode = none ∧
      Staged p q p.statement.bindings) ∨
    Aborted p (reset.exec p) ∧ (p.db.faults ≠ [] ∨ p.statement.cursor.errorCode ≠ none) := by
  rcases p.reset_cases with ⟨hr, h⟩ | ⟨hr, e, h⟩
  · have hcode : p.statement.cursor.errorCode = none := by
      by_contra hcode
      exact hr (Or.inr hcode)
    exact Or.inl ⟨_, h, hcode, rfl, rfl, Advances.spend p.db, rfl⟩
  · refine Or.inr ⟨⟨e, _, h, Advances.spend p.db, rfl⟩, ?_⟩
    rcases hr with hr | hr
    · left
      intro hnil
      exact hr (Connection.fault_eq_none hnil)
    · exact Or.inr hr

variable {p} {q : PreparedStatement sql} {bindings : Bindings}

/-- What follows a call that threw does not run. -/
theorem Aborted.bind {α β : Type} {m : Action (PreparedStatement sql) α}
    {f : α → Action (PreparedStatement sql) β} (h : Aborted p (m.exec q)) :
    Aborted p ((m >>= f).exec q) := by
  obtain ⟨e, r, h, hr⟩ := h
  exact ⟨e, r, Fallible.exec_bind_error h, hr⟩

private theorem not_bindFails (hq : Staged p q bindings) (hnil : p.db.faults = []) :
    ¬q.bindFails := by
  simp [bindFails, hq.cursor, Connection.fault_eq_none (hq.advances.faults hnil)]

/-- Binding a text to a reset statement; the empty text is not bound. -/
theorem bindText_staged (hq : Staged p q bindings) (index : Nat) (text : String) :
    (∃ r, (bindText index text).exec q = (.ok (), r) ∧ Staged p r
      (if text = "" then bindings else Function.update bindings index (.text text))) ∨
    Aborted p ((bindText index text).exec q) ∧ p.db.faults ≠ [] := by
  rcases q.bindText_cases index text with ⟨ht, h⟩ | ⟨ht, _, h⟩ | ⟨_, hf, e, h⟩
  · left
    exact ⟨q, h, by rw [if_pos ht]; exact hq⟩
  · left
    refine ⟨_, h, hq.cursor, ?_, hq.advances.trans (Advances.spend _), hq.requests⟩
    rw [if_neg ht, ← hq.bound]
    rfl
  · right
    exact ⟨⟨e, _, h, hq.advances.trans (Advances.spend _), hq.requests⟩,
      fun hnil => not_bindFails hq hnil hf⟩

/-- Binding an integer to a reset statement. -/
theorem bindInt64_staged (hq : Staged p q bindings) (index : Nat) (i : Int64) :
    (∃ r, (bindInt64 index i).exec q = (.ok (), r) ∧
      Staged p r (Function.update bindings index (.integer i))) ∨
    Aborted p ((bindInt64 index i).exec q) ∧ p.db.faults ≠ [] := by
  rcases q.bindInt64_cases index i with ⟨_, h⟩ | ⟨hf, e, h⟩
  · left
    refine ⟨_, h, hq.cursor, ?_, hq.advances.trans (Advances.spend _), hq.requests⟩
    rw [← hq.bound]
    rfl
  · right
    exact ⟨⟨e, _, h, hq.advances.trans (Advances.spend _), hq.requests⟩,
      fun hnil => not_bindFails hq hnil hf⟩

end PreparedStatement

/-! ### Columns -/

namespace Statement

variable {sql : Sql}

/-- `sqlite3_column_*`: the column of the row the statement is positioned on, else `NULL`. -/
def column (stmt : Statement sql) (index : Nat) : Value :=
  match stmt.cursor.position with
  | some r => r.column index
  | none => .null

/-- A C string ends at the first NUL character. -/
def cString (s : String) : String := String.ofList (s.toList.takeWhile fun c => c != '\x00')

/-- `PreparedStatement::column_text`; `src/core/trust/impl/sqlite3/store.cpp:193–198`. -/
def columnText (stmt : Statement sql) (index : Nat) : String :=
  match stmt.column index with
  | .null => ""
  | .integer i => toString i.toInt
  | .text s => cString s

/-- `PreparedStatement::column_int64`; `src/core/trust/impl/sqlite3/store.cpp:187–191`.
No text is ever bound to an integer column. -/
def columnInt64 (stmt : Statement sql) (index : Nat) : Int64 :=
  match stmt.column index with
  | .integer i => i
  | _ => 0

/-- `PreparedStatement::column_int`; `src/core/trust/impl/sqlite3/store.cpp:181–185`. -/
def columnInt (stmt : Statement sql) (index : Nat) : Int32 := (stmt.columnInt64 index).toInt32

end Statement
end TrustStore.Sqlite
