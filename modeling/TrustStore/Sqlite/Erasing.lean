import TrustStore.Sqlite.Cursor

/-!
# Erasing through a query

`Query::erase` reads the id of the row that the query is on, deletes the rows with that id and
moves on, `src/core/trust/impl/sqlite3/store.cpp:635–647`. The id is a 64-bit integer, and `erase`
narrows it to 32 bits on the way: a row is deleted by its own id only as long as that fits.
-/

namespace TrustStore.Sqlite

open TrustStore.Base

/-- The id by which `erase` deletes the row. -/
def Row.eraseId (row : Row) : Int64 := row.id.toInt32.toInt64

/-- The id of the row fits into 32 bits. -/
def Row.Narrow (row : Row) : Prop := row.id.toInt < 2 ^ 31

instance (row : Row) : Decidable row.Narrow := inferInstanceAs (Decidable (_ < _))

private theorem eraseId_lt (row : Row) : row.eraseId.toInt < 2 ^ 31 := by
  rw [Row.eraseId, Int32.toInt_toInt64]
  exact Int32.toInt_lt _

/-- A positive id is erased by itself exactly if it fits into 32 bits. -/
theorem Row.eraseId_eq_iff {row : Row} (hpos : 0 < row.id) : row.eraseId = row.id ↔ row.Narrow := by
  rw [Int64.lt_iff_toInt_lt, Int64.toInt_zero] at hpos
  constructor
  · intro h
    rw [Row.Narrow, ← h]
    exact eraseId_lt row
  · intro h
    rw [Row.Narrow] at h
    rw [← Int64.toInt_inj, Row.eraseId, Int32.toInt_toInt64, Int64.toInt_toInt32]
    exact Int.bmod_eq_of_le (by omega) (by omega)

namespace Query

/-- The query is on a row, with these rows behind it. -/
structure On (s : Query × Connection) (row : Row) (rest : List Row) : Prop where
  status : s.1.status = .hasMoreResults
  cursor : s.1.selectStatement.cursor = .row row rest

/-- The row is deleted and nothing else, and the query is on the next of the rows behind it. -/
structure Erases (s t : Query × Connection) (row : Row) (rest : List Row) : Prop where
  requests : t.2.requests = s.2.requests.filter (· ≠ row)
  status : t.1.status = (s.1.delivered rest).status
  selectStatement : t.1.selectStatement = (s.1.delivered rest).selectStatement

/-- `while (query->status() != eor) query->erase();` with so many tests of the condition at most,
and the number of iterations. -/
def eraseWhile : Nat → Method (Option Nat)
  | 0 => return none
  | tests + 1 => do
    let s ← get
    if s.1.status = .eor then
      return some 0
    erase
    let iterations ← eraseWhile tests
    return iterations.map (· + 1)

/-- Execute a query and erase its results; `tests/trust_store_test.cpp:389–398`. -/
def executeAndErase (tests : Nat) : Method (Option Nat) := do
  execute
  eraseWhile tests

/-- The loop ended after one iteration for each result, and left the rows that are none. -/
structure Emptied (s t : Query × Connection) (iterations : Option Nat) : Prop where
  iterations : iterations = some (results s).length
  status : t.1.status = .eor
  requests : t.2.requests =
    s.2.requests.filter fun r => !selects s.1.selectStatement.bindings r

/-- The rows without those whose id is that of an erased row. -/
def without (requests erased : List Row) : List Row :=
  requests.filter fun r => erased.all fun row => r.id ≠ row.eraseId

variable {s t : Query × Connection} {row : Row} {rest rows : List Row}

/-! ### One row -/

private theorem columnInt_on (h : On s row rest) :
    (s.1.selectStatement.columnInt 0).toInt64 = row.eraseId := by
  rw [Statement.columnInt, Statement.columnInt64, Statement.column, h.cursor]
  rfl

/-- Erasing on a row deletes the rows with its narrowed id and moves on, unless a call fails. -/
private theorem erase_cases (h : On s row rest) :
    (∃ t, erase.exec s = (.ok (), t) ∧ t.2.requests = without s.2.requests [row] ∧
      t.1.status = (s.1.delivered rest).status ∧
      t.1.selectStatement = (s.1.delivered rest).selectStatement ∧
      t.1.deleteStatement.cursor.errorCode = none ∧ (s.2.faults = [] → t.2.faults = [])) ∨
    (s.2.faults ≠ [] ∨ s.1.deleteStatement.cursor.errorCode ≠ none) ∧
      ∃ e t, erase.exec s = (.error e, t) := by
  have hfaults : ∀ {db : Connection}, db.fault ≠ none → db.faults ≠ [] :=
    fun hf hnil => hf (Connection.fault_eq_none hnil)
  rw [erase_exec, if_neg (by simp [h.status])]
  rcases (deleting s).deleteRow_cases (s.1.selectStatement.columnInt 0) with
    ⟨-, q, hq, hdb⟩ | ⟨hfails, e, q, hq, -⟩
  · have hready : q.statement.cursor.errorCode = none := by
      rw [PreparedStatement.deleteRow] at hq
      obtain ⟨_, _, -, hq⟩ := Fallible.exec_bind_eq_ok hq
      obtain ⟨_, _, -, hq⟩ := Fallible.exec_bind_eq_ok hq
      exact PreparedStatement.errorCode_of_step hq
    rw [Fallible.exec_bind_ok (onDelete_exec hq)]
    rcases next_cases ({ s.1 with deleteStatement := q.statement }, q.db) with
      ⟨-, hnext⟩ | ⟨code, hf, e, hnext⟩
    · refine .inl ⟨_, hnext, ?_, ?_, ?_, ?_, ?_⟩
      · rw [Connection.spend_requests, hdb, without, columnInt_on h]
        simp [Value.equals, deleting]
      all_goals
        have hpending : (selecting ({ s.1 with deleteStatement := q.statement }, q.db)).pending =
            rest := by
          simp only [PreparedStatement.pending, selecting, h.cursor]
        rw [hpending]
      · cases rest <;> rfl
      · cases rest <;> rfl
      · cases rest <;> exact hready
      · intro hnil
        simp [hdb, deleting, hnil]
    · refine .inr ⟨.inl fun hnil => ?_, e, _, hnext⟩
      have hnil' : q.db.faults = [] := by simp [hdb, deleting, hnil]
      simp [Connection.fault_eq_none hnil'] at hf
  · refine .inr ⟨?_, e, _, Fallible.exec_bind_error (onDelete_exec hq)⟩
    rcases hfails with (hf | hhalted) | hf | hf
    · exact .inl (hfaults hf)
    · exact .inr hhalted
    · refine .inl fun hnil => hfaults hf (by simp [deleting, hnil])
    · refine .inl fun hnil => hfaults hf (by simp [deleting, hnil])

/-- Rows with distinct ids are equal where their ids are. -/
private theorem eq_of_id (hids : (s.2.requests.map Row.id).Nodup) {r : Row}
    (hr : r ∈ s.2.requests) (hrow : row ∈ s.2.requests) (h : r.id = row.id) : r = row :=
  List.inj_on_of_nodup_map hids hr hrow h

/-- Exactly a row with a narrow id is deleted by it. -/
private theorem without_singleton_iff (hids : (s.2.requests.map Row.id).Nodup)
    (hpos : ∀ r ∈ s.2.requests, 0 < r.id) (hrow : row ∈ s.2.requests) :
    without s.2.requests [row] = s.2.requests.filter (· ≠ row) ↔ row.Narrow := by
  constructor
  · intro h
    have hgone : row ∉ without s.2.requests [row] := by
      rw [h]
      simp
    rw [← Row.eraseId_eq_iff (hpos row hrow)]
    by_contra hid
    exact hgone (List.mem_filter.mpr ⟨hrow, by simpa using Ne.symm hid⟩)
  · intro h
    rw [← Row.eraseId_eq_iff (hpos row hrow)] at h
    refine List.filter_congr fun r hr => ?_
    simp only [List.all_cons, List.all_nil, Bool.and_true, h, decide_eq_decide]
    exact not_congr ⟨eq_of_id hids hr hrow, fun heq => heq ▸ rfl⟩

/-! ### The loop -/

/-- The query is before these rows, or at the end. -/
private def Before (t : Query × Connection) : List Row → Prop
  | [] => t.1.status = .eor
  | row :: rest => On t row rest

private theorem before_delivered {q : Query} (hstatus : t.1.status = (q.delivered rows).status)
    (hselect : t.1.selectStatement = (q.delivered rows).selectStatement) : Before t rows := by
  cases rows with
  | nil => exact hstatus
  | cons row rest => exact ⟨hstatus, by rw [hselect]; rfl⟩

private theorem without_without (requests : List Row) (row : Row) (rest : List Row) :
    without (without requests [row]) rest = without requests (row :: rest) := by
  rw [without, without, without, List.filter_filter]
  refine List.filter_congr fun r _ => ?_
  simp [Bool.and_comm]

/-- The loop takes one iteration for each row before the query, unless a call fails. -/
private theorem eraseWhile_cases (h : Before t rows) (tests : Nat) :
    (∃ u, (eraseWhile tests).exec t =
        (.ok (if rows.length < tests then some rows.length else none), u) ∧
      (rows.length < tests → u.1.status = .eor ∧
        u.2.requests = without t.2.requests rows)) ∨
    (t.2.faults ≠ [] ∨ t.1.deleteStatement.cursor.errorCode ≠ none) ∧
      ∃ e u, (eraseWhile tests).exec t = (.error e, u) := by
  induction tests generalizing t rows with
  | zero => exact .inl ⟨t, rfl, fun hlt => absurd hlt (Nat.not_lt_zero _)⟩
  | succ tests ih =>
    rw [eraseWhile, Fallible.exec_bind_ok (Fallible.exec_get t)]
    cases rows with
    | nil =>
      have heor : t.1.status = .eor := h
      rw [if_pos heor]
      refine .inl ⟨t, rfl, fun _ => ⟨heor, ?_⟩⟩
      simp [without]
    | cons row rest =>
      have hon : On t row rest := h
      rw [if_neg (by simp [hon.status])]
      rcases erase_cases hon with ⟨u, herase, hrequests, hstatus, hselect, hready, hfaults⟩ |
        ⟨hwhy, e, u, herase⟩
      · rw [Fallible.exec_bind_ok herase]
        rcases ih (before_delivered hstatus hselect) with ⟨v, hloop, hv⟩ | ⟨hwhy, e, v, hloop⟩
        · rw [Fallible.exec_bind_ok hloop]
          left
          by_cases hlt : rest.length < tests
          · obtain ⟨heor, hrows⟩ := hv hlt
            refine ⟨v, ?_, fun _ => ⟨heor, ?_⟩⟩
            · simp [hlt]
            · rw [hrows, hrequests, without_without]
          · refine ⟨v, ?_, fun hlt' => absurd (Nat.lt_of_succ_lt_succ hlt') hlt⟩
            simp [hlt]
        · refine .inr ⟨.inl fun hnil => ?_, e, v, Fallible.exec_bind_error hloop⟩
          rcases hwhy with hf | hhalted
          · exact hf (hfaults hnil)
          · exact hhalted hready
      · exact .inr ⟨hwhy, e, u, Fallible.exec_bind_error herase⟩

/-- Executing a query and erasing its results takes one iteration for each of them, unless a call
fails. -/
private theorem executeAndErase_cases (s : Query × Connection) (tests : Nat) :
    (∃ t, (executeAndErase tests).exec s = (.ok (if (results s).length < tests then
        some (results s).length else none), t) ∧
      ((results s).length < tests → t.1.status = .eor ∧
        t.2.requests = without s.2.requests (results s))) ∨
    (s.2.faults ≠ [] ∨ s.1.selectStatement.cursor.errorCode ≠ none ∨
        s.1.deleteStatement.cursor.errorCode ≠ none) ∧
      ∃ e t, (executeAndErase tests).exec s = (.error e, t) := by
  rw [executeAndErase]
  rcases execute_cases s with ⟨-, hexec⟩ | ⟨hfails, e, cursor, db, hexec, -⟩
  · rw [Fallible.exec_bind_ok hexec]
    have hbefore : Before (s.1.delivered (results s), s.2.spend.spend) (results s) :=
      before_delivered rfl rfl
    rcases eraseWhile_cases hbefore tests with h | ⟨hwhy, e, u, hloop⟩
    · exact .inl h
    · refine .inr ⟨?_, e, u, hloop⟩
      have hdelete : (s.1.delivered (results s)).deleteStatement = s.1.deleteStatement := by
        cases results s <;> rfl
      rw [hdelete] at hwhy
      rcases hwhy with hf | hhalted
      · exact .inl fun hnil => hf (by simp [hnil])
      · exact .inr (.inr hhalted)
  · refine .inr ⟨?_, e, _, Fallible.exec_bind_error hexec⟩
    rcases hfails with (hf | hhalted) | hf
    · exact .inl fun hnil => hf (Connection.fault_eq_none hnil)
    · exact .inr (.inl hhalted)
    · exact .inl fun hnil => hf (Connection.fault_eq_none (by simp [hnil]))

private theorem mem_results {r : Row} :
    r ∈ results s ↔ r ∈ s.2.requests ∧ selects s.1.selectStatement.bindings r = true := by
  rw [results, (s.2.engine.sort_perm _).mem_iff, List.mem_filter]

/-- The results are deleted and nothing else exactly if all their ids are narrow. -/
private theorem without_results_iff (hids : (s.2.requests.map Row.id).Nodup)
    (hpos : ∀ r ∈ s.2.requests, 0 < r.id) :
    without s.2.requests (results s) =
        s.2.requests.filter (fun r => !selects s.1.selectStatement.bindings r) ↔
      ∀ row ∈ results s, row.Narrow := by
  constructor
  · intro h row hrow
    obtain ⟨hmem, hselects⟩ := mem_results.mp hrow
    have hgone : row ∉ without s.2.requests (results s) := by
      rw [h]
      simp [hselects]
    -- some result deleted the row, by an id that fits into 32 bits
    rw [without, List.mem_filter, List.all_eq_true] at hgone
    push Not at hgone
    obtain ⟨other, -, hid⟩ := hgone hmem
    rw [ne_eq, decide_eq_true_eq, not_not] at hid
    rw [Row.Narrow, hid]
    exact eraseId_lt other
  · intro h
    refine List.filter_congr fun r hr => ?_
    rw [Bool.eq_iff_iff, List.all_eq_true, Bool.not_eq_true', Bool.eq_false_iff]
    constructor
    · intro hall hselects
      have hresult := mem_results.mpr ⟨hr, hselects⟩
      have hid := of_decide_eq_true (hall r hresult)
      exact hid ((Row.eraseId_eq_iff (hpos r hr)).mpr (h r hresult)).symm
    · intro hselects row hrow
      obtain ⟨hmem, hrowSelects⟩ := mem_results.mp hrow
      rw [(Row.eraseId_eq_iff (hpos row hmem)).mpr (h row hrow), decide_eq_true_eq]
      intro hid
      rw [eq_of_id hids hr hmem hid] at hselects
      exact hselects hrowSelects

/-- In a table whose rows have distinct positive ids, `erase` deletes exactly the row that the query
is on if and only if the id of the row fits into 32 bits, and the loop that erases all results
leaves exactly the other rows if and only if the ids of all results do. Where no call of SQLite
fails, both return. -/
theorem erases_iff (hids : (s.2.requests.map Row.id).Nodup)
    (hpos : ∀ r ∈ s.2.requests, 0 < r.id) :
    (∀ row rest, row ∈ s.2.requests → On s row rest → ∀ t, erase.exec s = (.ok (), t) →
      (Erases s t row rest ↔ row.Narrow)) ∧
    (∀ tests, (results s).length < tests → ∀ iterations t,
      (executeAndErase tests).exec s = (.ok iterations, t) →
        (Emptied s t iterations ↔ ∀ row ∈ results s, row.Narrow)) ∧
    (s.2.faults = [] → s.1.selectStatement.cursor.errorCode = none →
      s.1.deleteStatement.cursor.errorCode = none →
        (∀ row rest, On s row rest → Fallible.Returns erase s) ∧
          ∀ tests, Fallible.Returns (executeAndErase tests) s) := by
  refine ⟨?_, ?_, ?_⟩
  · intro row rest hrow hon t ht
    rcases erase_cases hon with ⟨u, herase, hrequests, hstatus, hselect, -⟩ | ⟨-, e, u, herase⟩
    · rw [herase] at ht
      cases ht
      rw [← without_singleton_iff hids hpos hrow, ← hrequests]
      exact ⟨fun h => h.requests, fun h => ⟨h, hstatus, hselect⟩⟩
    · rw [herase] at ht
      cases ht
  · intro tests htests iterations t ht
    rcases executeAndErase_cases s tests with ⟨u, hloop, hu⟩ | ⟨-, e, u, hloop⟩
    · rw [hloop, if_pos htests] at ht
      cases ht
      obtain ⟨heor, hrequests⟩ := hu htests
      rw [← without_results_iff hids hpos, ← hrequests]
      exact ⟨fun h => h.requests, fun h => ⟨rfl, heor, h⟩⟩
    · rw [hloop] at ht
      cases ht
  · intro hnil hselect hdelete
    constructor
    · intro row rest hon
      rcases erase_cases hon with ⟨u, herase, -⟩ | ⟨hwhy, -⟩
      · exact ⟨(), u, herase⟩
      · rcases hwhy with hf | hhalted
        · exact absurd hnil hf
        · exact absurd hdelete hhalted
    · intro tests
      rcases executeAndErase_cases s tests with ⟨u, hloop, -⟩ | ⟨hwhy, -⟩
      · exact ⟨_, u, hloop⟩
      · rcases hwhy with hf | hhalted | hhalted
        · exact absurd hnil hf
        · exact absurd hselect hhalted
        · exact absurd hdelete hhalted

/-- A table with a grant and a denial of one application, and the feature 2 of another. -/
def threeRows (first : Int64) : Connection :=
  ⟨Engine.stable, [Row.ofRequest first ⟨"app", ⟨1⟩, 9, .granted⟩,
    Row.ofRequest 2 ⟨"app", ⟨1⟩, 5, .denied⟩, Row.ofRequest 5 ⟨"other", ⟨2⟩, 7, .granted⟩], []⟩

/-- A query for the feature 1. -/
def firstFeature : Query := ((forFeature ⟨1⟩).exec (fresh, threeRows 1)).2.1

/-- Two iterations erase the two answers of the application. -/
theorem erases_iff_threeRows : ∃ t,
    (executeAndErase 3).exec (firstFeature, threeRows 1) = (.ok (some 2), t) ∧
      Emptied (firstFeature, threeRows 1) t (some 2) := by
  have hpos : ∀ r ∈ (threeRows 1).requests, 0 < r.id := by decide
  have hloop := (@erases_iff (firstFeature, threeRows 1) (by decide) hpos).2.1 3 (by decide)
  exact ⟨_, rfl, (hloop (some 2) _ rfl).mpr (by decide)⟩

/-- A row whose id does not fit into 32 bits stays, and the row of another application goes. -/
theorem not_erases_wide : ∃ t,
    (executeAndErase 3).exec (firstFeature, threeRows 4294967301) = (.ok (some 2), t) ∧
      t.2.requests = [Row.ofRequest 4294967301 ⟨"app", ⟨1⟩, 9, .granted⟩] ∧
      ¬ Emptied (firstFeature, threeRows 4294967301) t (some 2) := by
  refine ⟨_, rfl, by decide, fun h => ?_⟩
  exact absurd h.requests (by decide)

end Query
end TrustStore.Sqlite
