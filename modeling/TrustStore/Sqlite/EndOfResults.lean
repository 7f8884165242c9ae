import TrustStore.Sqlite.Lookup

/-!
# Beyond the end of the results

A query that is executed and moved on, `src/core/trust/impl/sqlite3/store.cpp:604–633`. SQLite
starts a statement again that is stepped at the end of its results, and `next` steps it there: a
query that went beyond its results is back on the first of them with the next call.
-/

namespace TrustStore.Sqlite.Query

open TrustStore.Base

/-- Execute a query, and move on a number of times. -/
def executeAndMove : Nat → Method Unit
  | 0 => execute
  | k + 1 => do
    executeAndMove k
    next

/-- After so many moves the query is on the row with that number, or at the end if there is none;
`include/core/trust/store.h:116–123`. -/
def StandsAt (t : Query × Connection) (rows : List Row) (k : Nat) : Prop :=
  match rows[k]? with
  | some row => t.1.status = .hasMoreResults ∧ current.exec t = (.ok row.request, t)
  | none => t.1.status = .eor

/-- The query has these rows before it, and its filters and its table are as they were. -/
structure Delivers (s t : Query × Connection) (rows : List Row) : Prop where
  query : t.1 = s.1.delivered rows
  engine : t.2.engine = s.2.engine
  requests : t.2.requests = s.2.requests
  faults : s.2.faults = [] → t.2.faults = []

variable {s t : Query × Connection} {rows : List Row}

private theorem delivered_delivered (q : Query) (rows others : List Row) :
    (q.delivered rows).delivered others = q.delivered others := by
  cases rows <;> cases others <;> rfl

/-- The rows that the next move finds: those that are left, or all of them again. -/
private theorem pending_delivers (h : Delivers s t rows) :
    (selecting t).pending = if rows = [] then results s else rows.tail := by
  obtain ⟨q, db⟩ := t
  obtain ⟨rfl, hengine, hrequests, -⟩ := h
  cases rows with
  | nil =>
    have hpending : (selecting (s.1.delivered [], db)).pending =
        db.engine.sort (db.requests.filter (selects s.1.selectStatement.bindings)) := rfl
    rw [hpending, if_pos rfl, results, hengine, hrequests]
  | cons row rest => rfl

/-- A move goes to the next row, and from the end to the first one. -/
private theorem next_delivers (h : Delivers s t rows) :
    (∃ u, next.exec t = (.ok (), u) ∧
      Delivers s u (if rows = [] then results s else rows.tail)) ∨
    s.2.faults ≠ [] ∧ ∃ e u, next.exec t = (.error e, u) := by
  rcases next_cases t with ⟨-, hnext⟩ | ⟨code, hf, e, hnext⟩
  · rw [pending_delivers h, h.query, delivered_delivered] at hnext
    refine .inl ⟨_, hnext, rfl, h.engine, h.requests, fun hnil => ?_⟩
    simp [h.faults hnil]
  · refine .inr ⟨fun hnil => ?_, e, _, hnext⟩
    simp [Connection.fault_eq_none (h.faults hnil)] at hf

/-- Moving on from the end is moving on from a position before the first row. -/
private theorem drop_succ_mod (rows : List Row) (k : Nat) :
    (if rows.drop (k % (rows.length + 1)) = [] then rows
      else (rows.drop (k % (rows.length + 1))).tail) =
      rows.drop ((k + 1) % (rows.length + 1)) := by
  have hlt : k % (rows.length + 1) < rows.length + 1 := Nat.mod_lt k (Nat.succ_pos _)
  rw [Nat.add_mod_eq_ite]
  split
  next hend =>
    rw [List.drop_eq_nil_iff] at hend
    have hone : 1 % (rows.length + 1) ≤ 1 := Nat.mod_le 1 _
    have hmod : k % (rows.length + 1) = rows.length := by omega
    rcases Nat.eq_zero_or_pos rows.length with hzero | hpos
    · simp [List.eq_nil_of_length_eq_zero hzero]
    · rw [hmod, Nat.mod_eq_of_lt (by omega), if_pos (by omega)]
      simp
  next hrow =>
    rw [List.drop_eq_nil_iff] at hrow
    rw [Nat.mod_eq_of_lt (by omega : 1 < rows.length + 1), if_neg (by omega), List.tail_drop]

/-- Where a query is after it was executed and moved on: the moves go round in circles. -/
theorem executeAndMove_cases (s : Query × Connection) (k : Nat) :
    (∃ t, (executeAndMove k).exec s = (.ok (), t) ∧
      Delivers s t ((results s).drop (k % ((results s).length + 1)))) ∨
    (s.2.faults ≠ [] ∨ s.1.selectStatement.cursor.errorCode ≠ none) ∧
      ∃ e t, (executeAndMove k).exec s = (.error e, t) := by
  induction k with
  | zero =>
    rw [executeAndMove]
    rcases execute_cases s with ⟨-, hexec⟩ | ⟨hfails, e, cursor, db, hexec, -⟩
    · refine .inl ⟨_, hexec, ?_, rfl, rfl, fun hnil => by simp [hnil]⟩
      rw [Nat.zero_mod, List.drop_zero]
    · refine .inr ⟨?_, e, _, hexec⟩
      rcases hfails with (hf | hhalted) | hf
      · exact .inl fun hnil => hf (Connection.fault_eq_none hnil)
      · exact .inr hhalted
      · exact .inl fun hnil => hf (Connection.fault_eq_none (by simp [hnil]))
  | succ k ih =>
    rw [executeAndMove]
    rcases ih with ⟨t, hexec, ht⟩ | ⟨hwhy, e, t, hexec⟩
    · rw [Fallible.exec_bind_ok hexec]
      rcases next_delivers ht with ⟨u, hnext, hu⟩ | ⟨hf, e, u, hnext⟩
      · rw [drop_succ_mod] at hu
        exact .inl ⟨u, hnext, hu⟩
      · exact .inr ⟨.inl hf, e, u, hnext⟩
    · exact .inr ⟨hwhy, e, t, Fallible.exec_bind_error hexec⟩

/-- A query with rows before it is on the first of them. -/
private theorem Delivers.onRow {row : Row} {rest : List Row} (h : Delivers s t (row :: rest)) :
    t.1.status = .hasMoreResults ∧ current.exec t = (.ok row.request, t) := by
  obtain ⟨q, db⟩ := t
  have hq : q = s.1.delivered (row :: rest) := h.query
  rw [hq]
  exact ⟨rfl, current_delivered s.1 row rest db⟩

/-- A query without rows before it is at the end. -/
private theorem Delivers.atEnd (h : Delivers s t []) : t.1.status = .eor := by
  rw [h.query]
  rfl

/-- After `k` moves a query is on row `k` of its results, or at their end if there are no more,
exactly if it was never moved on from there, or has come round to the end again. Where no call of
SQLite fails, it gets there. -/
theorem standsAt_iff (s : Query × Connection) (k : Nat) :
    (∀ t, (executeAndMove k).exec s = (.ok (), t) →
      (StandsAt t (results s) k ↔
        k ≤ (results s).length ∨ k % ((results s).length + 1) = (results s).length)) ∧
    (s.2.faults = [] → s.1.selectStatement.cursor.errorCode = none →
      Fallible.Returns (executeAndMove k) s) := by
  have hlt : k % ((results s).length + 1) < (results s).length + 1 :=
    Nat.mod_lt k (Nat.succ_pos _)
  rcases executeAndMove_cases s k with ⟨t, hexec, ht⟩ | ⟨hwhy, e, t, hexec⟩
  · refine ⟨fun u hu => ?_, fun _ _ => ⟨(), t, hexec⟩⟩
    rw [hexec] at hu
    cases hu
    rw [StandsAt]
    by_cases hk : k < (results s).length
    · rw [Nat.mod_eq_of_lt (by omega), List.drop_eq_getElem_cons hk] at ht
      rw [List.getElem?_eq_getElem hk]
      exact iff_of_true ht.onRow (.inl (Nat.le_of_lt hk))
    · rw [List.getElem?_eq_none (Nat.le_of_not_lt hk)]
      by_cases hend : k % ((results s).length + 1) = (results s).length
      · rw [hend, List.drop_length] at ht
        exact iff_of_true ht.atEnd (.inr hend)
      · rw [List.drop_eq_getElem_cons (by omega)] at ht
        refine iff_of_false (fun heor => ?_) ?_
        · rw [ht.onRow.1] at heor
          cases heor
        · rintro (hle | hend')
          · exact hend (by rw [Nat.mod_eq_of_lt (by omega)]; omega)
          · exact hend hend'
  · refine ⟨fun u hu => ?_, fun hnil hready => ?_⟩
    · rw [hexec] at hu
      cases hu
    · rcases hwhy with hf | hhalted
      · exact absurd hnil hf
      · exact absurd hready hhalted

/-- A table with a grant and a denial. -/
def twoAnswers : Connection :=
  ⟨Engine.stable, [Row.ofRequest 1 ⟨"app", ⟨1⟩, 9, .granted⟩,
    Row.ofRequest 2 ⟨"app", ⟨1⟩, 5, .denied⟩], []⟩

/-- Two moves take a query to the end of two results. -/
theorem standsAt_iff_twoAnswers : ∃ t, (executeAndMove 2).exec (fresh, twoAnswers) = (.ok (), t) ∧
    StandsAt t (results (fresh, twoAnswers)) 2 := by
  obtain ⟨hstands, hreturns⟩ := standsAt_iff (fresh, twoAnswers) 2
  obtain ⟨_, t, hexec⟩ := hreturns rfl rfl
  exact ⟨t, hexec, (hstands t hexec).mpr (.inl (by decide))⟩

/-- A third move takes it back to the first one. -/
theorem not_standsAt_restarted : ∃ t, (executeAndMove 3).exec (fresh, twoAnswers) = (.ok (), t) ∧
    (results (fresh, twoAnswers)).length < 3 ∧ t.1.status = .hasMoreResults ∧
    ¬ StandsAt t (results (fresh, twoAnswers)) 3 := by
  refine ⟨_, rfl, by decide, rfl, ?_⟩
  intro h
  have hstatus : Status.hasMoreResults = .eor := h
  cases hstatus

end TrustStore.Sqlite.Query
