import TrustStore.Base.Transition
import TrustStore.Sqlite.Encoding

/-!
# The cursor of a query

The status of a query caches the position of its select statement,
`src/core/trust/impl/sqlite3/store.cpp:598–679`. This module says when each operation keeps
the two in step, including the paths on which an SQLite call fails, and what follows for
`erase` and `current` after any sequence of operations.
-/

namespace TrustStore.Sqlite

open TrustStore.Base

namespace PreparedStatement

/-- The calls with which `Query::erase` deletes a row. -/
def deleteRow (id : Int32) : Action (PreparedStatement .deleteById) ResultCode := do
  reset
  bindInt 1 id
  step

variable (p : PreparedStatement .deleteById)

/-- Whether one of the calls that delete a row fails. -/
def deleteFails : Prop :=
  p.resetFails ∨ p.db.spend.fault ≠ none ∨ p.db.spend.spend.fault ≠ none

instance : Decidable p.deleteFails := inferInstanceAs (Decidable (_ ∨ _))

private theorem step_deleteById_cases
    (hc : p.statement.cursor = .ready) :
    p.db.fault = none ∧ step.exec p = (.ok .done,
      ⟨{ p.db.spend with
          requests := p.db.requests.filter fun r =>
            !(Value.integer r.id).equals (p.statement.bindings 1) },
        { p.statement with cursor := .done }⟩) ∨
    p.db.fault ≠ none ∧ ∃ e code, step.exec p = (.error e, p.moved (.failed code)) :=
  step_start_cases hc rfl

/-- Deleting a row takes three calls, of which only the last one changes the table. -/
theorem deleteRow_cases (id : Int32) :
    (¬p.deleteFails ∧ ∃ q, (deleteRow id).exec p = (.ok .done, q) ∧
      q.db = { p.db.spend.spend.spend with
        requests := p.db.requests.filter fun r =>
          !(Value.integer r.id).equals (.integer id.toInt64) }) ∨
    (p.deleteFails ∧ ∃ e q, (deleteRow id).exec p = (.error e, q) ∧
      q.db.engine = p.db.engine ∧
        q.db.requests = p.db.requests) := by
  rw [deleteRow, bindInt_eq]
  rcases p.reset_cases with ⟨hr, h⟩ | ⟨hr, e, h⟩
  · rw [Fallible.exec_bind_ok h]
    have hiff : (p.moved .ready).bindFails ↔ p.db.spend.fault ≠ none := by
      simp [bindFails, moved]
    rcases (p.moved .ready).bindInt64_cases 1 id.toInt64 with ⟨hb, h⟩ | ⟨hb, e, h⟩
    · rw [Fallible.exec_bind_ok h]
      have hb : p.db.spend.fault = none := by simpa [hiff] using hb
      let q := (p.moved .ready).rebound
        (Function.update (p.moved .ready).statement.bindings 1 (.integer id.toInt64))
      rcases q.step_deleteById_cases rfl with ⟨hf, h⟩ | ⟨hf, e, code, h⟩
      · left
        have hf : p.db.spend.spend.fault = none := hf
        refine ⟨by simp [deleteFails, hr, hb, hf], _, h, ?_⟩
        simp [q, rebound, moved]
      · right
        exact ⟨Or.inr (Or.inr hf), e, _, h, rfl, rfl⟩
    · right
      rw [Fallible.exec_bind_error h]
      exact ⟨Or.inr (Or.inl (hiff.mp hb)), e, _, rfl, rfl, rfl⟩
  · right
    rw [Fallible.exec_bind_error h]
    exact ⟨Or.inl hr, e, _, rfl, rfl, rfl⟩

end PreparedStatement

namespace Query

/-! ### One operation -/

/-- The operations of a query that do not only read it. -/
inductive Operation where
  | forApplicationId (id : String)
  | forFeature (feature : Feature)
  | forInterval (first last : Timestamp)
  | forAnswer (answer : Answer)
  | all
  | execute
  | next
  | erase

/-- Perform an operation, whose outcome the caller sees. -/
def Operation.perform : Operation → Method Unit
  | forApplicationId id => Query.forApplicationId id
  | forFeature feature => Query.forFeature feature
  | forInterval first last => Query.forInterval first last
  | forAnswer answer => Query.forAnswer answer
  | all => Query.all
  | execute => Query.execute
  | next => Query.next
  | erase => Query.erase

/-- Whether an operation unpositions the select statement without noting it in the status:
`all` does, and so do `execute`, `next` and `erase` where their call on it fails. -/
def Operation.unpositions (op : Operation) (s : Query × Connection) : Prop :=
  match op with
  | all => True
  | execute => (selecting s).resetFails ∨ s.2.spend.fault ≠ none
  | next => s.2.fault ≠ none
  | erase => s.1.status ≠ .eor ∧ ¬(deleting s).deleteFails ∧
      s.2.spend.spend.spend.fault ≠ none
  | _ => False

instance (op : Operation) (s : Query × Connection) : Decidable (op.unpositions s) :=
  match op with
  | .all => isTrue trivial
  | .execute => inferInstanceAs (Decidable (_ ∨ _))
  | .next => inferInstanceAs (Decidable (_ ≠ _))
  | .erase => inferInstanceAs (Decidable (_ ∧ _ ∧ _))
  | .forApplicationId _ | .forFeature _ | .forInterval .. | .forAnswer _ => isFalse id

/-- What every operation leaves alone: the engine. Rows may go, but none appears. -/
structure Frame (s t : Query × Connection) : Prop where
  engine : t.2.engine = s.2.engine
  requests : t.2.requests ⊆ s.2.requests

/-- What an operation does to the status and the position of a query. -/
inductive Effect (op : Operation) (s t : Query × Connection) : Prop where
  /-- Both are as they were. -/
  | kept (noted : ¬op.unpositions s) (status : t.1.status = s.1.status)
      (cursor : t.1.selectStatement.cursor = s.1.selectStatement.cursor)
  /-- The first of some rows was delivered, or their end. -/
  | delivered (noted : ¬op.unpositions s) (rows : List Row)
      (known : rows ⊆ s.1.selectStatement.cursor.rows ++ s.2.requests)
      (status : t.1.status = (s.1.delivered rows).status)
      (cursor : t.1.selectStatement.cursor = (s.1.delivered rows).selectStatement.cursor)
  /-- The position was lost, but not the status. -/
  | lost (unnoted : op.unpositions s) (status : t.1.status = s.1.status)
      (cursor : t.1.selectStatement.cursor.position = none)

/-- Nothing but the bindings of the select statement changed. -/
structure Rebinds (s t : Query × Connection) : Prop extends Frame s t where
  status : t.1.status = s.1.status
  cursor : t.1.selectStatement.cursor = s.1.selectStatement.cursor

private theorem Rebinds.trans {s t r : Query × Connection} (hst : Rebinds s t)
    (htr : Rebinds t r) : Rebinds s r where
  engine := htr.engine.trans hst.engine
  requests := List.Subset.trans htr.requests hst.requests
  status := htr.status.trans hst.status
  cursor := htr.cursor.trans hst.cursor

private theorem rebinds_text (index : Nat) (text : String) :
    Fallible.Keeps Rebinds (onSelect (PreparedStatement.bindText index text)) := by
  intro s
  rcases (selecting s).bindText_cases index text with ⟨_, h⟩ | ⟨_, _, h⟩ | ⟨_, _, e, h⟩ <;>
  · rw [onSelect_exec h]
    exact ⟨⟨rfl, List.Subset.refl _⟩, rfl, rfl⟩

private theorem rebinds_int64 (index : Nat) (i : Int64) :
    Fallible.Keeps Rebinds (onSelect (PreparedStatement.bindInt64 index i)) := by
  intro s
  rcases (selecting s).bindInt64_cases index i with ⟨_, h⟩ | ⟨_, e, h⟩ <;>
  · rw [onSelect_exec h]
    exact ⟨⟨rfl, List.Subset.refl _⟩, rfl, rfl⟩

private theorem rebinds_clear :
    Fallible.Keeps Rebinds (onSelect PreparedStatement.clearBindings) := by
  intro s
  rcases (selecting s).clearBindings_cases with ⟨_, h⟩ | ⟨_, e, h⟩ <;>
  · rw [onSelect_exec h]
    exact ⟨⟨rfl, List.Subset.refl _⟩, rfl, rfl⟩

/-- The delivered rows are materialised, and the frame is kept. -/
private theorem rows_delivered (q : Query) (rows : List Row) :
    (q.delivered rows).selectStatement.cursor.rows = rows := by
  cases rows <;> rfl

/-- A statement without a position has no rows left. -/
private theorem rows_of_position_none {c : Cursor} (h : c.position = none) : c.rows = [] := by
  cases c <;> simp_all [Cursor.position, Cursor.rows]

variable {s : Query × Connection}

private theorem pending_known (s : Query × Connection) :
    (selecting s).pending ⊆ s.1.selectStatement.cursor.rows ++ s.2.requests := by
  have hresults : (selecting s).db.engine.sort
      (s.2.requests.filter (selects s.1.selectStatement.bindings)) ⊆ s.2.requests :=
    fun r hr => List.filter_sublist.subset ((s.2.engine.sort_perm _).subset hr)
  unfold PreparedStatement.pending
  split
  next r rest hc =>
    have hc : s.1.selectStatement.cursor = .row r rest := hc
    rw [hc]
    exact List.Subset.trans (List.subset_cons_self r rest) (List.subset_append_left _ _)
  next => exact List.Subset.trans hresults (List.subset_append_right _ _)

private theorem results_known (s : Query × Connection) :
    results s ⊆ s.1.selectStatement.cursor.rows ++ s.2.requests :=
  fun _ hr => List.mem_append_right _
    (List.filter_sublist.subset ((s.2.engine.sort_perm _).subset hr))

private theorem frame_delivered (q : Query) (db : Connection) (rows : List Row)
    (hq : Frame s (q, db)) : Frame s (q.delivered rows, db) := by
  cases rows <;> exact ⟨hq.engine, hq.requests⟩

private theorem rebinds_of_operation (op : Operation) (hop : ¬op.unpositions s)
    (h : Rebinds s (op.perform.exec s).2) :
    Frame s (op.perform.exec s).2 ∧ Effect op s (op.perform.exec s).2 :=
  ⟨h.toFrame, .kept hop h.status h.cursor⟩

private theorem all_effect (s : Query × Connection) :
    Frame s (all.exec s).2 ∧ Effect .all s (all.exec s).2 := by
  rcases (selecting s).reset_cases with ⟨_, h⟩ | ⟨_, e, h⟩
  · have hexec : all.exec s =
        (onSelect PreparedStatement.clearBindings).exec (s.1.moved .ready, s.2.spend) := by
      rw [all, Fallible.exec_bind_ok (onSelect_exec h)]
      rfl
    rw [hexec]
    have hclear := rebinds_clear (s.1.moved .ready, s.2.spend)
    refine ⟨⟨hclear.engine, hclear.requests⟩, ?_⟩
    refine .lost trivial hclear.status ?_
    rw [hclear.cursor]
    rfl
  · have hexec : all.exec s = (.error e, s.1.moved .ready, s.2.spend) := by
      rw [all, Fallible.exec_bind_error (onSelect_exec h)]
      rfl
    rw [hexec]
    exact ⟨⟨rfl, List.Subset.refl _⟩, .lost trivial rfl rfl⟩

/-- The rows delivered by a call that leaves the frame alone. -/
private theorem delivered_effect {op : Operation} (hop : ¬op.unpositions s) {t : Query}
    {db : Connection} {rows : List Row} (hframe : Frame s (t, db))
    (hknown : rows ⊆ s.1.selectStatement.cursor.rows ++ s.2.requests) :
    Frame s (t.delivered rows, db) ∧ Effect op s (t.delivered rows, db) := by
  refine ⟨frame_delivered t db rows hframe, .delivered hop rows hknown ?_ ?_⟩ <;>
  · cases rows <;> rfl

private theorem next_effect (s : Query × Connection) :
    Frame s (next.exec s).2 ∧ Effect .next s (next.exec s).2 := by
  rcases next_cases s with ⟨hf, h⟩ | ⟨code, hf, e, h⟩
  · rw [h]
    exact delivered_effect (by simp [Operation.unpositions, hf])
      ⟨rfl, List.Subset.refl _⟩ (pending_known s)
  · rw [h]
    exact ⟨⟨rfl, List.Subset.refl _⟩,
      .lost (by simp [Operation.unpositions, hf]) rfl rfl⟩

private theorem execute_effect (s : Query × Connection) :
    Frame s (execute.exec s).2 ∧ Effect .execute s (execute.exec s).2 := by
  rcases execute_cases s with ⟨⟨hr, hf⟩, h⟩ | ⟨hfails, e, cursor, db, h, hcursor, hreq, hadv⟩
  · rw [h]
    exact delivered_effect (by simp [Operation.unpositions, hr, hf])
      ⟨rfl, List.Subset.refl _⟩ (results_known s)
  · rw [h]
    exact ⟨⟨hadv.engine, hreq ▸ List.Subset.refl _⟩, .lost hfails rfl hcursor⟩

/-- `erase` throws beyond the result set, otherwise it deletes a row and moves on. -/
theorem erase_exec (s : Query × Connection) :
    erase.exec s =
      if s.1.status = .eor then
        (.error (.runtimeError "Cannot delete request as query points beyond the result set."), s)
      else
        (onDelete (PreparedStatement.deleteRow (s.1.selectStatement.columnInt 0)) >>=
          fun _ => next).exec s := by
  simp only [erase, PreparedStatement.deleteRow, onDelete_bind, bind_assoc]
  split
  next h => simp [h]
  next h => simp [h]

private theorem erase_effect (s : Query × Connection) :
    Frame s (erase.exec s).2 ∧ Effect .erase s (erase.exec s).2 := by
  rw [erase_exec]
  split
  next heor =>
    refine ⟨⟨rfl, List.Subset.refl _⟩, .kept ?_ rfl rfl⟩
    simp [Operation.unpositions, heor]
  next heor =>
    rcases (deleting s).deleteRow_cases (s.1.selectStatement.columnInt 0) with
      ⟨hd, q, h, hdb⟩ | ⟨hd, e, q, h, heng, hreq⟩
    · rw [Fallible.exec_bind_ok (onDelete_exec h)]
      have hsub : q.db.requests ⊆ s.2.requests := by
        rw [hdb]
        exact List.filter_sublist.subset
      have hframe : Frame s ({ s.1 with deleteStatement := q.statement }, q.db) :=
        ⟨by rw [hdb]; rfl, hsub⟩
      have hfault : q.db.fault = s.2.spend.spend.spend.fault := by
        rw [hdb]
        rfl
      rcases next_cases ({ s.1 with deleteStatement := q.statement }, q.db) with
        ⟨hf, hn⟩ | ⟨code, hf, e, hn⟩
      · rw [hn]
        have hop : ¬Operation.erase.unpositions s := by
          simp [Operation.unpositions, ← hfault, hf]
        refine delivered_effect hop ⟨hframe.engine, hframe.requests⟩ ?_
        refine List.Subset.trans (pending_known _) ?_
        exact List.append_subset.mpr ⟨List.subset_append_left _ _,
          List.Subset.trans hsub (List.subset_append_right _ _)⟩
      · rw [hn]
        refine ⟨⟨hframe.engine, hframe.requests⟩, .lost ⟨heor, hd, ?_⟩ rfl rfl⟩
        simp [← hfault, hf]
    · rw [Fallible.exec_bind_error (onDelete_exec h)]
      refine ⟨⟨heng, hreq ▸ List.Subset.refl _⟩, .kept ?_ rfl rfl⟩
      simp [Operation.unpositions, hd]

/-- What any operation can do, whatever its outcome. -/
theorem Operation.effect (op : Operation) (s : Query × Connection) :
    Frame s (op.perform.exec s).2 ∧ Effect op s (op.perform.exec s).2 := by
  cases op with
  | forApplicationId id => exact rebinds_of_operation _ not_false (rebinds_text 1 id s)
  | forFeature feature => exact rebinds_of_operation _ not_false (rebinds_int64 2 _ s)
  | forInterval first last =>
    have hboth : Fallible.Keeps Rebinds (Query.forInterval first last) := by
      refine Fallible.Keeps.bind ?_ (rebinds_int64 3 first) fun _ => rebinds_int64 4 last
      exact Rebinds.trans
    exact rebinds_of_operation _ not_false (hboth s)
  | forAnswer answer => exact rebinds_of_operation _ not_false (rebinds_int64 5 _ s)
  | all => exact all_effect s
  | execute => exact execute_effect s
  | next => exact next_effect s
  | erase => exact erase_effect s

/-! ### Runs -/

/-- The status says whether the select statement is positioned on a row. -/
def InStep (q : Query) : Prop := q.status = .hasMoreResults ↔ q.position.isSome

/-- An operation whose effect on the position is noted, or finds no position to lose. -/
def Noted (s : Query × Connection) (op : Operation) : Prop :=
  ¬(op.unpositions s ∧ s.1.status = .hasMoreResults)

instance (s : Query × Connection) (op : Operation) : Decidable (Noted s op) :=
  inferInstanceAs (Decidable (¬(_ ∧ _)))

private theorem inStep_delivered (q : Query) (rows : List Row) : InStep (q.delivered rows) := by
  cases rows <;> simp [InStep, delivered, moved, position, Cursor.position]

private theorem inStep_congr {q r : Query} (hstatus : q.status = r.status)
    (hcursor : q.selectStatement.cursor = r.selectStatement.cursor) : InStep q ↔ InStep r := by
  rw [InStep, InStep, hstatus, position, position, hcursor]

/-- An operation keeps status and position in step exactly if its effect is noted. -/
theorem inStep_perform_iff (op : Operation) (h : InStep s.1) :
    InStep (op.perform.exec s).2.1 ↔ Noted s op := by
  rcases (op.effect s).2 with ⟨hn, hstatus, hcursor⟩ | ⟨hn, rows, _, hstatus, hcursor⟩ |
    ⟨hu, hstatus, hcursor⟩
  · rw [inStep_congr hstatus hcursor]
    simp [h, Noted, hn]
  · rw [inStep_congr hstatus hcursor]
    simp [inStep_delivered, Noted, hn]
  · simp [InStep, Noted, hu, hstatus, position, hcursor]

/-- The states that operations with noted effects lead to. -/
structure Sound (s : Query × Connection) : Prop where
  inStep : InStep s.1
  noError : s.1.status ≠ .error
  written : ∀ r ∈ s.1.selectStatement.cursor.rows ++ s.2.requests, r.Written

/-- The step of a query whose user goes on after an exception. -/
def step (s : Query × Connection) (op : Operation) : Option (Query × Connection) :=
  some (op.perform.exec s).2

private theorem sound_perform {op : Operation} (hs : Sound s) (hn : Noted s op) :
    Sound (op.perform.exec s).2 := by
  obtain ⟨hframe, heffect⟩ := op.effect s
  have hrequests : ∀ r ∈ (op.perform.exec s).2.2.requests, r.Written :=
    fun r hr => hs.written r (List.mem_append_right _ (hframe.requests hr))
  refine ⟨(inStep_perform_iff op hs.inStep).mpr hn, ?_, ?_⟩
  · rcases heffect with ⟨_, hstatus, _⟩ | ⟨_, rows, _, hstatus, _⟩ | ⟨_, hstatus, _⟩
    · exact hstatus ▸ hs.noError
    · rw [hstatus]
      cases rows <;> simp [delivered]
    · exact hstatus ▸ hs.noError
  · intro r hr
    rcases List.mem_append.mp hr with hr | hr
    · rcases heffect with ⟨_, _, hcursor⟩ | ⟨_, rows, hknown, _, hcursor⟩ | ⟨_, _, hcursor⟩
      · rw [hcursor] at hr
        exact hs.written r (List.mem_append_left _ hr)
      · rw [hcursor, rows_delivered] at hr
        exact hs.written r (hknown hr)
      · rw [rows_of_position_none hcursor] at hr
        exact absurd hr List.not_mem_nil
    · exact hrequests r hr

/-- A freshly created query is sound. -/
private theorem sound_create {db db' : Connection} {q : Query}
    (h : create.exec db = (.ok q, db')) (hwritten : ∀ r ∈ db.requests, r.Written) :
    Sound (q, db') := by
  rcases create_cases db with hc | ⟨_, e, faults, hc⟩
  · rw [hc] at h
    cases h
    exact ⟨by simp [InStep, fresh, position, Statement.prepared, Cursor.position],
      by simp [fresh], hwritten⟩
  · rw [hc] at h
    cases h

/-- Status, position and current request agree: the request is that of the row on which the
select statement is positioned, and there is none without such a row. -/
structure Faithful (s : Query × Connection) : Prop where
  inStep : InStep s.1
  unpositioned : s.1.position = none → ∃ e, current.exec s = (.error e, s)
  positioned : ∀ row, s.1.position = some row →
    ∃ request, current.exec s = (.ok request, s) ∧ row.Holds request

/-- Without a row there is nothing to erase: `erase` throws and the table stays. -/
def EraseGuarded (s : Query × Connection) : Prop :=
  s.1.position = none → ∃ e t, erase.exec s = (.error e, t) ∧ t.2.requests = s.2.requests

private theorem Sound.faithful (hs : Sound s) : Faithful s := by
  refine ⟨hs.inStep, ?_, ?_⟩
  · intro hpos
    have hstatus : s.1.status ≠ .hasMoreResults := by
      simp [hs.inStep.not, hpos]
    cases h : s.1.status with
    | hasMoreResults => exact absurd h hstatus
    | armed => exact ⟨.noCurrentResult, by simp [current, h]⟩
    | eor => exact ⟨.noCurrentResult, by simp [current, h]⟩
    | error => exact ⟨.queryIsInErrorState, by simp [current, h]⟩
  · intro row hpos
    have hstatus : s.1.status = .hasMoreResults := hs.inStep.mpr (by simp [hpos])
    have hrow : row ∈ s.1.selectStatement.cursor.rows := by
      revert hpos
      rw [position]
      cases s.1.selectStatement.cursor <;> simp_all [Cursor.position, Cursor.rows]
    refine ⟨request s.1.selectStatement, by simp [current, hstatus], ?_⟩
    exact holds_request (hs.written row (List.mem_append_left _ hrow)) hpos

private theorem Sound.eraseGuarded (hs : Sound s) (harmed : s.1.status ≠ .armed) :
    EraseGuarded s := by
  intro hpos
  have hstatus : s.1.status ≠ .hasMoreResults := by
    simp [hs.inStep.not, hpos]
  have heor : s.1.status = .eor := by
    cases h : s.1.status with
    | eor => rfl
    | hasMoreResults => exact absurd h hstatus
    | armed => exact absurd h harmed
    | error => exact absurd h hs.noError
  have hexec := erase_exec s
  rw [if_pos heor] at hexec
  exact ⟨_, s, hexec, rfl⟩

/-- As long as every operation notes its effect on the position, status, position and current
request agree in every state, and `erase` is guarded once the query has been executed. -/
theorem faithful_run {db db' : Connection} {q : Query} {ops : List Operation}
    {t : Query × Connection} (hwritten : ∀ r ∈ db.requests, r.Written)
    (hcreate : create.exec db = (.ok q, db')) (hnoted : Transition.Meets step Noted (q, db') ops)
    (hrun : Transition.run step (q, db') ops = some t) :
    Faithful t ∧ (t.1.status ≠ .armed → EraseGuarded t) := by
  have hsound : Sound t := by
    refine Transition.invariant_run ?_ (sound_create hcreate hwritten) hnoted hrun
    intro s op r hs hn hr
    cases Option.some.inj hr
    exact sound_perform hs hn
  exact ⟨hsound.faithful, hsound.eraseGuarded⟩

/-- A table with one grant of the feature 1 to the application `app`. -/
def oneGrant : Connection :=
  ⟨Engine.stable, [Row.ofRequest 1 ⟨"app", ⟨1⟩, 5, .granted⟩], []⟩

private theorem oneGrant_written : ∀ r ∈ oneGrant.requests, r.Written := by
  intro r hr
  rw [List.mem_singleton.mp hr]
  exact ⟨⟨"app", ⟨1⟩, 5, .granted⟩, by decide, rfl⟩

/-- A query that is executed, moves beyond its only result and starts over. -/
theorem faithful_run_oneGrant :
    ∃ t, Transition.run step (fresh, oneGrant) [.execute, .next, .next] = some t ∧
      Faithful t ∧ (t.1.status ≠ .armed → EraseGuarded t) := by
  have hcreate : create.exec oneGrant = (.ok fresh, oneGrant) := rfl
  have hnoted : Transition.Meets step Noted (fresh, oneGrant) [.execute, .next, .next] := by
    decide
  exact ⟨_, rfl, faithful_run oneGrant_written hcreate hnoted rfl⟩

/-- After `all` the status still promises a result, though the statement has none. -/
theorem not_faithful_all : ¬∀ (db db' : Connection) (q : Query) (ops : List Operation)
    (t : Query × Connection), (∀ r ∈ db.requests, r.Written) →
    create.exec db = (.ok q, db') → Transition.run step (q, db') ops = some t →
    Faithful t ∧ EraseGuarded t := by
  intro h
  have hall := h oneGrant oneGrant fresh [.execute, .all] _ oneGrant_written rfl rfl
  have hnone := hall.1.inStep.mp (by decide)
  exact absurd hnone (by decide)

end Query
end TrustStore.Sqlite
