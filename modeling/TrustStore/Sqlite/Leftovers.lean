import TrustStore.Core.Clients
import TrustStore.Sqlite.Store

/-!
# What earlier calls leave behind

A store adds and removes requests with two statements that live as long as it does. They carry
the application id that was bound last, as the empty id is not bound, and the error of a step
that failed. Whether a call depends on the calls before it is decided by these two leftovers.
-/

namespace TrustStore.Sqlite

open TrustStore.Base

/-- None of the next calls meets a failure of its own. -/
def Connection.Unhindered (db : Connection) (calls : Nat) : Prop :=
  ∀ k < calls, db.faults[k]?.join = none

instance (db : Connection) (calls : Nat) : Decidable (db.Unhindered calls) :=
  inferInstanceAs (Decidable (∀ k < calls, db.faults[k]?.join = none))

/-- Binding a text takes a call, unless it is empty. -/
def bindCalls (text : String) : Nat := if text = "" then 0 else 1

private theorem unhindered_succ {db : Connection} {n : Nat} :
    db.Unhindered (n + 1) ↔ db.Unhindered n ∧ db.faults[n]?.join = none := by
  constructor
  · intro h
    exact ⟨fun k hk => h k (Nat.lt_succ_of_lt hk), h n (Nat.lt_succ_self n)⟩
  · rintro ⟨h, hn⟩ k hk
    rcases Nat.lt_succ_iff_lt_or_eq.mp hk with hlt | rfl
    · exact h k hlt
    · exact hn

namespace PreparedStatement

variable {sql : Sql} {p q : PreparedStatement sql} {n : Nat} {bindings : Bindings}

/-- What the application id is once a text was bound, or not bound as it is empty. -/
def parameter (p : PreparedStatement sql) (text : String) : Value :=
  if text = "" then p.statement.bindings 1 else .text text

/-- The statement was reset, and so many calls went well since. -/
structure Primed (p q : PreparedStatement sql) (calls : Nat) (bindings : Bindings) : Prop where
  cursor : q.statement.cursor = .ready
  bound : q.statement.bindings = bindings
  db : q.db = { p.db with faults := p.db.faults.drop calls }
  unhindered : p.db.Unhindered calls

/-- The next call failed by itself, and left a statement that is reset. -/
def Stopped {α : Type} (p : PreparedStatement sql)
    (outcome : Except Exception α × PreparedStatement sql) (calls : Nat) (bindings : Bindings) :
    Prop :=
  ∃ e q, outcome = (.error e, q) ∧ q.statement.cursor = .ready ∧ q.statement.bindings = bindings ∧
    q.db.requests = p.db.requests ∧ ¬ p.db.Unhindered (calls + 1)

private theorem Primed.fault (hq : Primed p q n bindings) :
    q.db.fault = p.db.faults[n]?.join := by
  rw [hq.db, Connection.fault, List.head?_drop]

private theorem Primed.unhindered_succ (hq : Primed p q n bindings) :
    p.db.Unhindered (n + 1) ↔ q.db.fault = none := by
  rw [Sqlite.unhindered_succ, hq.fault]
  exact and_iff_right hq.unhindered

private theorem Primed.spend (hq : Primed p q n bindings) :
    q.db.spend = { p.db with faults := p.db.faults.drop (n + 1) } := by
  rw [hq.db, Connection.spend, List.tail_drop]

private theorem Stopped.bind {α β : Type} {m : Action (PreparedStatement sql) α}
    {f : α → Action (PreparedStatement sql) β} (h : Stopped p (m.exec q) n bindings) :
    Stopped p ((m >>= f).exec q) n bindings := by
  obtain ⟨e, r, h, hr⟩ := h
  exact ⟨e, r, Fallible.exec_bind_error h, hr⟩

private theorem Primed.bindFails (hq : Primed p q n bindings) :
    q.bindFails ↔ ¬ p.db.Unhindered (n + 1) := by
  rw [hq.unhindered_succ, PreparedStatement.bindFails, hq.cursor]
  simp

/-- Resetting a statement, unless it is halted. -/
private theorem reset_primed (p : PreparedStatement sql) :
    (∃ q, reset.exec p = (.ok (), q) ∧ p.statement.cursor.errorCode = none ∧
      Primed p q 1 p.statement.bindings) ∨
    ∃ e, reset.exec p = (.error e, p.moved .ready) ∧
      (p.statement.cursor.errorCode ≠ none ∨ ¬ p.db.Unhindered 1) := by
  have hfault : p.db.Unhindered 1 ↔ p.db.fault = none := by
    rw [Sqlite.unhindered_succ, Connection.fault, List.head?_eq_getElem?]
    exact and_iff_right (by simp [Connection.Unhindered])
  rcases p.reset_cases with ⟨hr, h⟩ | ⟨hr, e, h⟩
  · rw [resetFails, not_or, not_not, not_not] at hr
    refine .inl ⟨_, h, hr.2, rfl, rfl, ?_, hfault.mpr hr.1⟩
    rw [moved, Connection.spend, List.drop_one]
  · refine .inr ⟨e, h, ?_⟩
    rw [hfault]
    exact hr.symm

/-- Binding a text to a reset statement; the empty text is not bound. -/
private theorem bindText_primed (hq : Primed p q n bindings) (index : Nat) (text : String) :
    (∃ r, (bindText index text).exec q = (.ok (), r) ∧ Primed p r (n + bindCalls text)
      (if text = "" then bindings else Function.update bindings index (.text text))) ∨
    text ≠ "" ∧ Stopped p ((bindText index text).exec q) n bindings := by
  rcases q.bindText_cases index text with ⟨rfl, h⟩ | ⟨ht, hf, h⟩ | ⟨ht, hf, e, h⟩
  · exact .inl ⟨q, h, hq⟩
  · rw [hq.bindFails, not_not] at hf
    refine .inl ⟨_, h, ?_⟩
    rw [if_neg ht, bindCalls, if_neg ht, ← hq.bound]
    exact ⟨hq.cursor, rfl, hq.spend, hf⟩
  · rw [hq.bindFails] at hf
    refine .inr ⟨ht, e, _, h, hq.cursor, hq.bound, ?_, hf⟩
    rw [untouched, hq.spend]

/-- Binding an integer to a reset statement. -/
private theorem bindInt64_primed (hq : Primed p q n bindings) (index : Nat) (i : Int64) :
    (∃ r, (bindInt64 index i).exec q = (.ok (), r) ∧
      Primed p r (n + 1) (Function.update bindings index (.integer i))) ∨
    Stopped p ((bindInt64 index i).exec q) n bindings := by
  rcases q.bindInt64_cases index i with ⟨hf, h⟩ | ⟨hf, e, h⟩
  · rw [hq.bindFails, not_not] at hf
    refine .inl ⟨_, h, ?_⟩
    rw [← hq.bound]
    exact ⟨hq.cursor, rfl, hq.spend, hf⟩
  · rw [hq.bindFails] at hf
    refine .inr ⟨e, _, h, hq.cursor, hq.bound, ?_, hf⟩
    rw [untouched, hq.spend]

/-- What comes of the calls that reset a statement, bind its application id and step it. -/
structure Outcome (p q : PreparedStatement sql) (text : String) (calls : Nat) (changed : List Row) :
    Prop where
  requests : q.db.requests =
    if p.statement.cursor.errorCode = none ∧ p.db.Unhindered calls then changed
    else p.db.requests
  bound : q.statement.bindings 1 = p.statement.bindings 1 ∨
    q.statement.bindings 1 = p.parameter text
  halted : q.statement.cursor.errorCode ≠ none →
    p.db.Unhindered (calls - 1) ∧ (p.db.Unhindered calls → p.parameter text = .null)

private theorem Outcome.of_stopped {α : Type} {outcome : Except Exception α × PreparedStatement sql}
    {text : String} {calls : Nat} {changed : List Row} (h : Stopped p outcome n bindings)
    (hcalls : n + 1 ≤ calls)
    (hbound : bindings 1 = p.statement.bindings 1 ∨ bindings 1 = p.parameter text) :
    Outcome p outcome.2 text calls changed := by
  obtain ⟨e, q, rfl, hcursor, hbindings, hrequests, hhindered⟩ := h
  refine ⟨?_, by rw [hbindings]; exact hbound, fun hhalted => ?_⟩
  · rw [if_neg, hrequests]
    rintro ⟨-, hunhindered⟩
    exact hhindered fun k hk => hunhindered k (Nat.lt_of_lt_of_le hk hcalls)
  · rw [hcursor] at hhalted
    exact absurd rfl hhalted

private theorem Outcome.of_reset {text : String} {calls : Nat} {changed : List Row}
    (h : p.statement.cursor.errorCode ≠ none ∨ ¬ p.db.Unhindered 1) (hcalls : 1 ≤ calls) :
    Outcome p (p.moved .ready) text calls changed := by
  refine ⟨?_, .inl rfl, fun hhalted => absurd rfl hhalted⟩
  rw [if_neg]
  · rfl
  · rintro ⟨hhalted, hunhindered⟩
    rcases h with h | h
    · exact h hhalted
    · exact h fun k hk => hunhindered k (Nat.lt_of_lt_of_le hk hcalls)

private theorem bound_parameter (p : PreparedStatement sql) (text : String) :
    (if text = "" then p.statement.bindings
      else Function.update p.statement.bindings 1 (.text text)) 1 = p.parameter text := by
  rw [parameter]
  split <;> simp

/-! ### Inserting a row -/

/-- The requests once a row was inserted, unless its application id is missing. -/
def withRow (p : PreparedStatement .insert) (request : Request) : List Row :=
  if p.parameter request.origin = .null then p.db.requests
  else p.db.requests ++ [p.addedRow request]

private theorem step_insert_outcome {p q : PreparedStatement .insert} {request : Request}
    (hq : Primed p q n bindings) (h₁ : bindings 1 = p.parameter request.origin)
    (h₂ : bindings 2 = .integer (featureColumn request.feature))
    (h₃ : bindings 3 = .integer request.when)
    (h₄ : bindings 4 = .integer request.answer.toInt32.toInt64)
    (hready : p.statement.cursor.errorCode = none) :
    Outcome p (step.exec q).2 request.origin (n + 1) (p.withRow request) := by
  have hrow : q.inserted = p.addedRow request := by
    rw [inserted, hq.bound, hq.db, h₁, h₂, h₃, h₄]
    rfl
  rcases step_insert_cases hq.cursor with ⟨⟨hf, hnull⟩, h⟩ | ⟨hf, e, code, h⟩
  · rw [hq.bound, h₁] at hnull
    rw [← hq.unhindered_succ] at hf
    rw [h]
    refine ⟨?_, ?_, fun hhalted => absurd rfl hhalted⟩
    · rw [if_pos ⟨hready, hf⟩, withRow, if_neg hnull, hrow, hq.db]
    · exact .inr ((congrFun hq.bound 1).trans h₁)
  · rw [hq.bound, h₁, ← hq.unhindered_succ, not_and, not_not] at hf
    rw [h]
    refine ⟨?_, ?_, fun _ => ⟨hq.unhindered, hf⟩⟩
    · have hrequests : (q.moved (.failed code)).db.requests = p.db.requests := by
        rw [moved, hq.db, Connection.spend_requests]
      rw [hrequests]
      split
      next hrun => rw [withRow, if_pos (hf hrun.2)]
      next => rfl
    · exact .inr ((congrFun hq.bound 1).trans h₁)

/-- What the calls of `add` come to. -/
theorem insertRow_outcome (p : PreparedStatement .insert) (request : Request) :
    Outcome p ((insertRow request).exec p).2 request.origin (bindCalls request.origin + 5)
      (p.withRow request) := by
  have hbound := p.bound_parameter request.origin
  simp only [insertRow, bindInt_eq]
  rcases p.reset_primed with ⟨q₀, h, hready, hq₀⟩ | ⟨e, h, hwhy⟩
  · rw [Fallible.exec_bind_ok h]
    rcases bindText_primed hq₀ 1 request.origin with ⟨q₁, h, hq₁⟩ | ⟨-, h⟩
    · rw [Fallible.exec_bind_ok h]
      rcases bindInt64_primed hq₁ 2 (featureColumn request.feature) with ⟨q₂, h, hq₂⟩ | h
      · rw [featureColumn] at h
        rw [Fallible.exec_bind_ok h]
        rcases bindInt64_primed hq₂ 3 request.when with ⟨q₃, h, hq₃⟩ | h
        · rw [Fallible.exec_bind_ok h]
          rcases bindInt64_primed hq₃ 4 request.answer.toInt32.toInt64 with ⟨q₄, h, hq₄⟩ | h
          · rw [Fallible.exec_bind_ok h]
            have hcalls : 1 + bindCalls request.origin + 1 + 1 + 1 + 1 =
                bindCalls request.origin + 5 := by omega
            rw [← hcalls]
            exact step_insert_outcome hq₄ (by simpa using hbound) (by simp) (by simp) (by simp)
              hready
          · exact .of_stopped h.bind (by omega) (.inr (by simpa using hbound))
        · exact .of_stopped h.bind (by omega) (.inr (by simpa using hbound))
      · exact .of_stopped h.bind (by omega) (.inr hbound)
    · exact .of_stopped h.bind (by omega) (.inl rfl)
  · rw [Fallible.exec_bind_error h]
    exact .of_reset hwhy (by omega)

/-! ### Removing the rows of an application -/

/-- The calls with which `Store::remove_application` removes rows. -/
def removeRows (id : String) : Action (PreparedStatement .removeApplication) ResultCode := do
  reset
  bindText 1 id
  step

/-- The requests without those of an application. -/
def withoutRows (p : PreparedStatement .removeApplication) (id : String) : List Row :=
  p.db.requests.filter fun r => !r.applicationId.equals (p.parameter id)

/-- A step of a reset statement removes the rows of the application that is bound, unless the call
fails. -/
private theorem step_remove_cases {p : PreparedStatement .removeApplication}
    (hc : p.statement.cursor = .ready) :
    p.db.fault = none ∧ step.exec p = (.ok .done,
      ⟨{ p.db.spend with requests :=
          p.db.requests.filter fun r => !r.applicationId.equals (p.statement.bindings 1) },
        { p.statement with cursor := .done }⟩) ∨
    p.db.fault ≠ none ∧ ∃ e code, step.exec p = (.error e, p.moved (.failed code)) :=
  step_start_cases hc rfl

/-- What the calls of `remove_application` come to. -/
theorem removeRows_outcome (p : PreparedStatement .removeApplication) (id : String) :
    Outcome p ((removeRows id).exec p).2 id (bindCalls id + 2) (p.withoutRows id) := by
  have hbound := p.bound_parameter id
  rw [removeRows]
  rcases p.reset_primed with ⟨q₀, h, hready, hq₀⟩ | ⟨e, h, hwhy⟩
  · rw [Fallible.exec_bind_ok h]
    rcases bindText_primed hq₀ 1 id with ⟨q₁, h, hq₁⟩ | ⟨-, h⟩
    · rw [Fallible.exec_bind_ok h]
      have hcalls : 1 + bindCalls id + 1 = bindCalls id + 2 := by omega
      rw [← hcalls]
      rcases step_remove_cases hq₁.cursor with ⟨hf, h⟩ | ⟨hf, e, code, h⟩
      · rw [← hq₁.unhindered_succ] at hf
        rw [h]
        refine ⟨?_, .inr ?_, fun hhalted => absurd rfl hhalted⟩
        · rw [if_pos ⟨hready, hf⟩, withoutRows, hq₁.bound, hbound, hq₁.db]
        · exact (congrFun hq₁.bound 1).trans hbound
      · rw [ne_eq, ← hq₁.unhindered_succ] at hf
        rw [h]
        refine ⟨?_, .inr ((congrFun hq₁.bound 1).trans hbound), fun _ => ⟨hq₁.unhindered, ?_⟩⟩
        · rw [if_neg fun hrun => hf hrun.2, moved, hq₁.db, Connection.spend_requests]
        · exact fun hrun => absurd hrun hf
    · exact .of_stopped h.bind (by omega) (.inl rfl)
  · rw [Fallible.exec_bind_error h]
    exact .of_reset hwhy (by omega)

end PreparedStatement

namespace Store

/-! ### Changes of the table -/

/-- The remove-application statement with the connection of the store. -/
def removing (s : Store) : PreparedStatement .removeApplication :=
  ⟨s.db, s.removeApplicationStatement⟩

/-- `remove_application` is a call on its statement. -/
theorem removeApplication_eq (id : String) :
    removeApplication id =
      onRemoveApplication (PreparedStatement.removeRows id) >>= fun _ => pure () := by
  simp only [removeApplication, PreparedStatement.removeRows, onRemoveApplication_bind, bind_assoc]

/-- What `add` leaves behind is what its calls leave behind. -/
private theorem add_exec (s : Store) (request : Request) :
    ((add request).exec s).2 = { s with
      db := ((PreparedStatement.insertRow request).exec s.inserting).2.db
      insertStatement :=
        ((PreparedStatement.insertRow request).exec s.inserting).2.statement } := by
  rw [add_eq, Fallible.exec_bind_pure_snd]
  rfl

/-- What `remove_application` leaves behind is what its calls leave behind. -/
private theorem removeApplication_exec (s : Store) (id : String) :
    ((removeApplication id).exec s).2 = { s with
      db := ((PreparedStatement.removeRows id).exec s.removing).2.db
      removeApplicationStatement :=
        ((PreparedStatement.removeRows id).exec s.removing).2.statement } := by
  rw [removeApplication_eq, Fallible.exec_bind_pure_snd]
  rfl

/-- The empty application id was never bound. -/
structure NeverEmpty (s : Store) : Prop where
  insert : s.insertStatement.bindings 1 ≠ .text ""
  removeApplication : s.removeApplicationStatement.bindings 1 ≠ .text ""

/-- Neither statement is halted. -/
structure NeverHalted (s : Store) : Prop where
  insert : s.insertStatement.cursor.errorCode = none
  removeApplication : s.removeApplicationStatement.cursor.errorCode = none

/-- A call that changes the table through a statement that the store keeps. -/
inductive Change where
  | add (request : Request)
  | removeApplication (id : String)

namespace Change

/-- The application id that the call is about. -/
def applicationId : Change → String
  | .add request => request.origin
  | .removeApplication id => id

/-- The call. -/
def perform : Change → Action Store Unit
  | .add request => Store.add request
  | .removeApplication id => Store.removeApplication id

/-- The table after the call. -/
def after (change : Change) (s : Store) : List Row := (change.perform.exec s).2.db.requests

/-- Rows are added and removed under the application id of the call only. -/
def Attributed (s : Store) : Change → Prop
  | .add request => ∀ rows, (add request).after s = s.db.requests ++ rows →
      ∀ row ∈ rows, row.applicationId = .text request.origin
  | .removeApplication id => ∀ row ∈ s.db.requests, row ∉ (removeApplication id).after s →
      row.applicationId = .text id

/-- The calls of SQLite that it takes. -/
def calls : Change → Nat
  | .add request => bindCalls request.origin + 5
  | .removeApplication id => bindCalls id + 2

/-- The statement was halted by a failed step, so that resetting it throws. -/
def Halted (s : Store) : Change → Prop
  | .add _ => s.insertStatement.cursor.errorCode ≠ none
  | .removeApplication _ => s.removeApplicationStatement.cursor.errorCode ≠ none

instance (s : Store) : (change : Change) → Decidable (change.Halted s)
  | .add _ => inferInstanceAs (Decidable (_ ≠ none))
  | .removeApplication _ => inferInstanceAs (Decidable (_ ≠ none))

/-- The application id that the statement has once it is bound: an empty one is not. -/
def parameter (s : Store) : Change → Value
  | .add request => s.inserting.parameter request.origin
  | .removeApplication id => s.removing.parameter id

/-- There is no application id to add a row for, or no row to remove. -/
def Idle (s : Store) (change : Change) : Prop :=
  match change with
  | .add _ => change.parameter s = .null
  | .removeApplication _ => ∀ row ∈ s.db.requests,
      row.applicationId.equals (change.parameter s) = false

/-- The table that the call leads to, if it goes well. -/
def applied (s : Store) : Change → List Row
  | .add request => s.inserting.withRow request
  | .removeApplication id => s.removing.withoutRows id

/-- The table after the call is the one it leads to, or the one before. -/
theorem after_eq (change : Change) (s : Store) : change.after s =
    if ¬ change.Halted s ∧ s.db.Unhindered change.calls then change.applied s
    else s.db.requests := by
  rw [after]
  cases change with
  | add request =>
    rw [perform, add_exec]
    refine (s.inserting.insertRow_outcome request).requests.trans ?_
    exact if_congr (and_congr_left' not_not.symm) rfl rfl
  | removeApplication id =>
    rw [perform, removeApplication_exec]
    refine (s.removing.removeRows_outcome id).requests.trans ?_
    exact if_congr (and_congr_left' not_not.symm) rfl rfl

/-- An idle call leads nowhere. -/
theorem applied_eq_iff (change : Change) (s : Store) :
    change.applied s = s.db.requests ↔ change.Idle s := by
  cases change with
  | add request =>
    rw [applied, PreparedStatement.withRow, Idle, parameter]
    by_cases h : s.inserting.parameter request.origin = .null
    · exact iff_of_true (if_pos h) h
    · refine iff_of_false ?_ h
      rw [if_neg h]
      simp [inserting]
  | removeApplication id =>
    simp only [applied, PreparedStatement.withoutRows, Idle, parameter, removing,
      List.filter_eq_self]
    simp

/-- A call that cannot or need not do anything leaves the table alone. -/
private theorem after_of_idle {change : Change} {s : Store}
    (h : change.Halted s ∨ ¬ s.db.Unhindered change.calls ∨ change.Idle s) :
    change.after s = s.db.requests := by
  rw [after_eq]
  split
  next hrun =>
    rcases h with h | h | h
    · exact absurd h hrun.1
    · exact absurd hrun.2 h
    · exact (applied_eq_iff change s).mpr h
  next => rfl

/-- Where the table stays, no row is added or removed. -/
private theorem attributed_of_after {change : Change} {s : Store}
    (h : change.after s = s.db.requests) : change.Attributed s := by
  cases change with
  | add request =>
    intro rows hrows row hrow
    rw [h, List.self_eq_append_right] at hrows
    rw [hrows] at hrow
    cases hrow
  | removeApplication id =>
    intro row hrow hremoved
    rw [h] at hremoved
    exact absurd hrow hremoved

/-- A row that is added or removed has the application id of the statement. -/
private theorem attributed_iff_of_run {change : Change} {s : Store} (hready : ¬ change.Halted s)
    (hunhindered : s.db.Unhindered change.calls) (hidle : ¬ change.Idle s) :
    change.Attributed s ↔ change.parameter s = .text change.applicationId := by
  have hafter := after_eq change s
  rw [if_pos ⟨hready, hunhindered⟩] at hafter
  cases change with
  | add request =>
    have hbound : s.inserting.parameter request.origin ≠ .null := hidle
    rw [applied, PreparedStatement.withRow, if_neg hbound] at hafter
    have hrow : (s.inserting.addedRow request).applicationId = (add request).parameter s := rfl
    rw [Attributed, applicationId, ← hrow]
    constructor
    · intro h
      exact h _ hafter _ (List.mem_singleton_self _)
    · intro h rows hrows row hmem
      rw [← List.append_cancel_left (hafter.symm.trans hrows), List.mem_singleton] at hmem
      rw [hmem, h]
  | removeApplication id =>
    have hmem : ∀ row ∈ s.db.requests, row ∉ (removeApplication id).after s ↔
        row.applicationId.equals ((removeApplication id).parameter s) = true := by
      intro row hrow
      rw [hafter, applied, PreparedStatement.withoutRows, List.mem_filter]
      simp [removing, hrow, parameter]
    constructor
    · intro h
      rw [Idle] at hidle
      push Not at hidle
      obtain ⟨row, hrow, hequals⟩ := hidle
      have hequals := (Bool.not_eq_false _).mp hequals
      have hid := h row hrow ((hmem row hrow).mpr hequals)
      rw [Value.equals, decide_eq_true_eq] at hequals
      rw [← hequals.2, hid, applicationId]
    · intro h row hrow hremoved
      have hequals := (hmem row hrow).mp hremoved
      rw [Value.equals, decide_eq_true_eq] at hequals
      rw [hequals.2, h, applicationId]

/-- In two states with the same table, the call changes it in the same way, and under its
application id only. -/
def HistoryIndependent (change : Change) (s t : Store) : Prop :=
  change.after s = change.after t ∧ change.Attributed s ∧ change.Attributed t

/-- If none of its calls fails by itself, then a call with an application id finds both statements
halted or none, or has no row to remove; and a call with the empty id has nothing to do, or is
halted. -/
def Unaffected (change : Change) (s t : Store) : Prop :=
  s.db.Unhindered change.calls →
    if change.applicationId = "" then
      (change.Halted s ∨ change.Idle s) ∧ (change.Halted t ∨ change.Idle t)
    else (change.Halted s ↔ change.Halted t) ∨ change.Idle s

private theorem parameter_of_ne {change : Change} (s : Store) (hid : change.applicationId ≠ "") :
    change.parameter s = .text change.applicationId := by
  cases change with
  | add request => exact if_neg hid
  | removeApplication id => exact if_neg hid

private theorem parameter_of_eq {change : Change} {s : Store} (hs : NeverEmpty s)
    (hid : change.applicationId = "") : change.parameter s ≠ .text change.applicationId := by
  rw [hid]
  cases change with
  | add request =>
    have hparameter : (add request).parameter s = s.insertStatement.bindings 1 := if_pos hid
    rw [hparameter]
    exact hs.insert
  | removeApplication id =>
    have hparameter : (removeApplication id).parameter s =
        s.removeApplicationStatement.bindings 1 := if_pos hid
    rw [hparameter]
    exact hs.removeApplication

/-- A call with an application id is attributed to it. -/
private theorem attributed_of_ne {change : Change} (s : Store) (hid : change.applicationId ≠ "") :
    change.Attributed s := by
  by_cases h : change.Halted s ∨ ¬ s.db.Unhindered change.calls ∨ change.Idle s
  · exact attributed_of_after (after_of_idle h)
  · push Not at h
    exact (attributed_iff_of_run h.1 h.2.1 h.2.2).mpr (parameter_of_ne s hid)

/-- A call with the empty application id is attributed to it only if it does nothing. -/
private theorem idle_of_attributed {change : Change} {s : Store} (hs : NeverEmpty s)
    (hid : change.applicationId = "") (hunhindered : s.db.Unhindered change.calls)
    (h : change.Attributed s) : change.Halted s ∨ change.Idle s := by
  by_contra hruns
  push Not at hruns
  exact parameter_of_eq hs hid ((attributed_iff_of_run hruns.1 hunhindered hruns.2).mp h)

/-- Calls with an application id lead to the same table. -/
private theorem applied_eq {change : Change} {s t : Store} (hdb : s.db = t.db)
    (hid : change.applicationId ≠ "") : change.applied s = change.applied t := by
  have hs := parameter_of_ne s hid
  have ht := parameter_of_ne t hid
  cases change with
  | add request =>
    have hrow : s.inserting.addedRow request = t.inserting.addedRow request := by
      rw [addedRow_eq s hid, addedRow_eq t hid, hdb]
    have hrequests : s.inserting.db.requests = t.inserting.db.requests := by
      rw [inserting, inserting, hdb]
    rw [parameter] at hs ht
    rw [applied, applied, PreparedStatement.withRow, PreparedStatement.withRow, hs, ht, hrow,
      hrequests]
  | removeApplication id =>
    have hrequests : s.removing.db.requests = t.removing.db.requests := by
      rw [removing, removing, hdb]
    rw [parameter] at hs ht
    rw [applied, applied, PreparedStatement.withoutRows, PreparedStatement.withoutRows, hs, ht,
      hrequests]

/-- Exactly when it does not show what earlier calls left behind. -/
theorem historyIndependent_iff_unaffected {s t : Store} (hs : NeverEmpty s) (ht : NeverEmpty t)
    (hdb : s.db = t.db) (change : Change) :
    change.HistoryIndependent s t ↔ change.Unaffected s t := by
  have hstay : ∀ u : Store, u.db = t.db →
      (change.Halted u ∨ ¬ u.db.Unhindered change.calls ∨ change.Idle u) →
      change.after u = t.db.requests ∧ change.Attributed u := by
    intro u hu h
    exact ⟨by rw [after_of_idle h, hu], attributed_of_after (after_of_idle h)⟩
  by_cases hunhindered : s.db.Unhindered change.calls
  · have hunhindered' : t.db.Unhindered change.calls := hdb ▸ hunhindered
    rw [Unaffected, imp_iff_right hunhindered]
    split
    next hid =>
      constructor
      · rintro ⟨-, hattributed, hattributed'⟩
        exact ⟨idle_of_attributed hs hid hunhindered hattributed,
          idle_of_attributed ht hid hunhindered' hattributed'⟩
      · rintro ⟨h, h'⟩
        obtain ⟨hafter, hattributed⟩ := hstay s hdb (h.imp_right .inr)
        obtain ⟨hafter', hattributed'⟩ := hstay t rfl (h'.imp_right .inr)
        exact ⟨hafter.trans hafter'.symm, hattributed, hattributed'⟩
    next hid =>
      have hidle : change.Idle s ↔ change.Idle t := by
        rw [← applied_eq_iff, ← applied_eq_iff, applied_eq hdb hid, hdb]
      have happlied : ∀ u : Store, u.db.Unhindered change.calls → ¬ change.Halted u →
          change.after u = change.applied u := by
        intro u hu hready
        rw [after_eq, if_pos ⟨hready, hu⟩]
      rw [HistoryIndependent, and_iff_left ⟨attributed_of_ne s hid, attributed_of_ne t hid⟩]
      constructor
      · intro hafter
        by_contra h
        rw [not_or] at h
        by_cases hhalted : change.Halted s
        · have hready : ¬ change.Halted t := fun hhalted' => h.1 (iff_of_true hhalted hhalted')
          rw [(hstay s hdb (.inl hhalted)).1, happlied t hunhindered' hready] at hafter
          exact h.2 (hidle.mpr ((applied_eq_iff change t).mp hafter.symm))
        · have hhalted' : change.Halted t := by
            by_contra hready
            exact h.1 (iff_of_false hhalted hready)
          rw [(hstay t rfl (.inl hhalted')).1, happlied s hunhindered hhalted, ← hdb] at hafter
          exact h.2 ((applied_eq_iff change s).mp hafter)
      · rintro (h | h)
        · by_cases hhalted : change.Halted s
          · rw [(hstay s hdb (.inl hhalted)).1, (hstay t rfl (.inl (h.mp hhalted))).1]
          · rw [happlied s hunhindered hhalted,
              happlied t hunhindered' fun hhalted' => hhalted (h.mpr hhalted'),
              applied_eq hdb hid]
        · rw [(hstay s hdb (.inr (.inr h))).1, (hstay t rfl (.inr (.inr (hidle.mp h)))).1]
  · have hhindered' : ¬ t.db.Unhindered change.calls := hdb ▸ hunhindered
    refine iff_of_true ?_ fun h => absurd h hunhindered
    obtain ⟨hafter, hattributed⟩ := hstay s hdb (.inr (.inl hunhindered))
    obtain ⟨hafter', hattributed'⟩ := hstay t rfl (.inr (.inl hhindered'))
    exact ⟨hafter.trans hafter'.symm, hattributed, hattributed'⟩

end Change

/-! ### Histories -/

/-- The statements that add and remove requests are left alone. -/
def KeepsStatements (s t : Store) : Prop :=
  t.insertStatement = s.insertStatement ∧
    t.removeApplicationStatement = s.removeApplicationStatement

private theorem keepsStatements_refl (s : Store) : KeepsStatements s s := ⟨rfl, rfl⟩

private theorem keepsStatements_trans {s t u : Store} (h : KeepsStatements s t)
    (h' : KeepsStatements t u) : KeepsStatements s u :=
  ⟨h'.1.trans h.1, h'.2.trans h.2⟩

private theorem keeps_returning {α β : Type} {m : Action Store α}
    (hm : Fallible.Keeps KeepsStatements m) (f : α → β) :
    Fallible.Keeps KeepsStatements (m >>= fun a => pure (f a)) :=
  Fallible.Keeps.bind (R := KeepsStatements) keepsStatements_trans hm fun _ =>
    Fallible.Keeps.pure (R := KeepsStatements) keepsStatements_refl _

private theorem keeps_reset : Fallible.Keeps KeepsStatements reset := by
  have hkeeps : ∀ {α : Type} (m : Action (PreparedStatement .delete) α),
      Fallible.Keeps KeepsStatements (onDelete m) := fun _ _ => ⟨rfl, rfl⟩
  have htry : Fallible.Keeps KeepsStatements (do
      onDelete PreparedStatement.reset
      let _ ← onDelete PreparedStatement.step) :=
    Fallible.Keeps.bind (R := KeepsStatements) keepsStatements_trans (hkeeps _) fun _ =>
      keeps_returning (hkeeps _) _
  intro s
  rw [reset, Fallible.exec_tryCatch]
  have hs := htry s
  split
  next h =>
    rw [h] at hs
    exact hs
  next h =>
    rw [h] at hs
    split <;> exact hs

private theorem keeps_query : Fallible.Keeps KeepsStatements query := by
  intro s
  rw [query, Fallible.exec_ofFn]
  cases hcreate : Query.create.exec s.db with
  | mk result db => cases result <;> exact ⟨rfl, rfl⟩

private theorem keeps_onQuery (q : QueryId) (operation : QueryOperation) :
    Fallible.Keeps KeepsStatements (interface.onQuery q operation) := by
  have hkeeps : ∀ {α : Type} (m : Query.Method α),
      Fallible.Keeps KeepsStatements (onQuery q m) := fun _ _ => ⟨rfl, rfl⟩
  cases operation with
  | all => exact keeps_returning (hkeeps _) _
  | forApplicationId id => exact keeps_returning (hkeeps _) _
  | forFeature feature => exact keeps_returning (hkeeps _) _
  | forInterval first last => exact keeps_returning (hkeeps _) _
  | forAnswer answer => exact keeps_returning (hkeeps _) _
  | execute => exact keeps_returning (hkeeps _) _
  | next => exact keeps_returning (hkeeps _) _
  | erase => exact keeps_returning (hkeeps _) _
  | current => exact keeps_returning (hkeeps _) _
  | status => exact fun s => keepsStatements_refl s

/-- An operation is a change of the table, or leaves both statements alone. -/
private theorem step_cases {c c' : Clients Store QueryId} {operation : Operation}
    (h : c.step interface operation = some c') :
    (∃ request, operation = .add request ∧ c'.state = ((add request).exec c.state).2) ∨
    (∃ id, operation = .removeApplication id ∧
      c'.state = ((removeApplication id).exec c.state).2) ∨
    KeepsStatements c.state c'.state := by
  cases operation with
  | add request =>
    cases h
    exact .inl ⟨request, rfl, Fallible.exec_bind_pure_snd _ _ c.state⟩
  | removeApplication id =>
    cases h
    exact .inr (.inl ⟨id, rfl, Fallible.exec_bind_pure_snd _ _ c.state⟩)
  | reset =>
    cases h
    exact .inr (.inr (keeps_returning keeps_reset _ c.state))
  | query =>
    cases h
    refine .inr (.inr ?_)
    have hkeeps : KeepsStatements c.state (interface.query.exec c.state).2 := keeps_query c.state
    rcases hquery : interface.query.exec c.state with ⟨_ | q, s⟩ <;> rw [hquery] at hkeeps <;>
      exact hkeeps
  | destroy n =>
    obtain ⟨q, -, rfl⟩ := Option.map_eq_some_iff.mp h
    exact .inr (.inr ⟨rfl, rfl⟩)
  | onQuery n operation =>
    obtain ⟨q, -, rfl⟩ := Option.map_eq_some_iff.mp h
    exact .inr (.inr (keeps_onQuery q operation c.state))

private theorem NeverEmpty.step {c c' : Clients Store QueryId} {operation : Operation}
    (hc : NeverEmpty c.state) (h : c.step interface operation = some c') :
    NeverEmpty c'.state := by
  rcases step_cases h with ⟨request, -, h⟩ | ⟨id, -, h⟩ | h
  · rw [h, add_exec]
    refine ⟨?_, hc.removeApplication⟩
    rcases (c.state.inserting.insertRow_outcome request).bound with hbound | hbound
    · rw [hbound]
      exact hc.insert
    · rw [hbound, PreparedStatement.parameter]
      split
      next => exact hc.insert
      next hid => simpa using hid
  · rw [h, removeApplication_exec]
    refine ⟨hc.insert, ?_⟩
    rcases (c.state.removing.removeRows_outcome id).bound with hbound | hbound
    · rw [hbound]
      exact hc.removeApplication
    · rw [hbound, PreparedStatement.parameter]
      split
      next => exact hc.removeApplication
      next hid => simpa using hid
  · exact ⟨h.1 ▸ hc.insert, h.2 ▸ hc.removeApplication⟩

/-- The call has an application id, and SQLite does not fail in the step of its statement. -/
def Change.Clean (s : Store) (change : Change) : Prop :=
  change.applicationId ≠ "" ∧
    (s.db.Unhindered (change.calls - 1) → s.db.Unhindered change.calls)

/-- Requests are added and removed by clean calls. -/
def Clean (c : Clients Store QueryId) : Operation → Prop
  | .add request => (Change.add request).Clean c.state
  | .removeApplication id => (Change.removeApplication id).Clean c.state
  | _ => True

private theorem NeverHalted.step {c c' : Clients Store QueryId} {operation : Operation}
    (hc : NeverHalted c.state) (hclean : Clean c operation)
    (hstep : c.step interface operation = some c') : NeverHalted c'.state := by
  rcases step_cases hstep with ⟨request, rfl, h⟩ | ⟨id, rfl, h⟩ | h
  · rw [h, add_exec]
    refine ⟨?_, hc.removeApplication⟩
    by_contra hhalted
    obtain ⟨hbefore, hbound⟩ := (c.state.inserting.insertRow_outcome request).halted hhalted
    have hid : (Change.add request).parameter c.state = .text request.origin :=
      if_neg hclean.1
    rw [Change.parameter, hbound (hclean.2 hbefore)] at hid
    cases hid
  · rw [h, removeApplication_exec]
    refine ⟨hc.insert, ?_⟩
    by_contra hhalted
    obtain ⟨hbefore, hbound⟩ := (c.state.removing.removeRows_outcome id).halted hhalted
    have hid' : (Change.removeApplication id).parameter c.state = .text id := if_neg hclean.1
    rw [Change.parameter, hbound (hclean.2 hbefore)] at hid'
    cases hid'
  · exact ⟨h.1 ▸ hc.insert, h.2 ▸ hc.removeApplication⟩

/-- After any two histories that lead to the same table, a call changes it in the same way and
under its application id exactly when it does not show what they left behind. This is so for every
call with an application id, if all calls of both histories were clean. -/
theorem historyIndependent_iff {db db' : Connection} {operations operations' : List Operation}
    {c c' : Clients Store QueryId}
    (hrun : Transition.run (Clients.step interface) (Clients.start (onConnection db)) operations =
      some c)
    (hrun' : Transition.run (Clients.step interface) (Clients.start (onConnection db'))
      operations' = some c')
    (hdb : c.state.db = c'.state.db) (change : Change) :
    (change.HistoryIndependent c.state c'.state ↔ change.Unaffected c.state c'.state) ∧
    (Transition.Meets (Clients.step interface) Clean (Clients.start (onConnection db))
        operations →
      Transition.Meets (Clients.step interface) Clean (Clients.start (onConnection db'))
        operations' →
      change.applicationId ≠ "" → change.HistoryIndependent c.state c'.state) := by
  have hempty : ∀ {db : Connection} {operations : List Operation} {c : Clients Store QueryId},
      Transition.run (Clients.step interface) (Clients.start (onConnection db)) operations =
        some c → NeverEmpty c.state := by
    intro db operations c hrun
    change (fun c : Clients Store QueryId => NeverEmpty c.state) c
    refine Transition.invariant_run (fun _ _ _ hc _ hstep => NeverEmpty.step hc hstep) ⟨?_, ?_⟩
      (Transition.meets_true _ _) hrun
    · exact Value.noConfusion
    · exact Value.noConfusion
  have hready : ∀ {db : Connection} {operations : List Operation} {c : Clients Store QueryId},
      Transition.run (Clients.step interface) (Clients.start (onConnection db)) operations =
        some c →
      Transition.Meets (Clients.step interface) Clean (Clients.start (onConnection db))
        operations → NeverHalted c.state := by
    intro db operations c hrun hclean
    change (fun c : Clients Store QueryId => NeverHalted c.state) c
    exact Transition.invariant_run (fun _ _ _ hc hl hstep => NeverHalted.step hc hl hstep)
      ⟨rfl, rfl⟩ hclean hrun
  have hiff := Change.historyIndependent_iff_unaffected (hempty hrun) (hempty hrun') hdb change
  refine ⟨hiff, fun hclean hclean' hid => hiff.mpr fun _ => ?_⟩
  rw [if_neg hid]
  left
  have hhalted : ∀ {s : Store}, NeverHalted s → ¬ change.Halted s := by
    intro s hs
    cases change with
    | add request => exact not_not.mpr hs.insert
    | removeApplication id => exact not_not.mpr hs.removeApplication
  exact iff_of_false (hhalted (hready hrun hclean)) (hhalted (hready hrun' hclean'))

/-- A request of an application. -/
def granted (id : String) : Request := ⟨id, ⟨1⟩, 5, .granted⟩

/-- A table without requests. -/
def noRequests : Connection := ⟨Engine.stable, [], []⟩

/-- A request of an application is added, and removed again. -/
def addedAndRemoved : List Operation := [.add (granted "camera"), .removeApplication "camera"]

/-- Nothing is left behind that shows when a request of another application is added. -/
theorem historyIndependent_gallery : ∃ c c',
    Transition.run (Clients.step interface) (Clients.start (onConnection noRequests)) [] = some c ∧
    Transition.run (Clients.step interface) (Clients.start (onConnection noRequests))
      addedAndRemoved = some c' ∧
    (Change.add (granted "gallery")).HistoryIndependent c.state c'.state := by
  have hrun : Transition.run (Clients.step interface) (Clients.start (onConnection noRequests)) [] =
    some _ := rfl
  have hrun' : Transition.run (Clients.step interface) (Clients.start (onConnection noRequests))
    addedAndRemoved = some _ := rfl
  have hiff := (historyIndependent_iff hrun hrun' rfl (.add (granted "gallery"))).1
  refine ⟨_, _, hrun, hrun', hiff.mpr fun _ => ?_⟩
  rw [if_neg (by decide)]
  exact .inl (by decide)

/-- A request with the empty application id is added under the id that was bound before. -/
theorem not_historyIndependent_empty :
    ¬ ∀ (db db' : Connection) (operations operations' : List Operation)
      (c c' : Clients Store QueryId) (change : Change),
      Transition.run (Clients.step interface) (Clients.start (onConnection db)) operations =
        some c →
      Transition.run (Clients.step interface) (Clients.start (onConnection db')) operations' =
        some c' →
      c.state.db = c'.state.db → change.HistoryIndependent c.state c'.state := by
  intro h
  have hsame := (h noRequests noRequests [] addedAndRemoved _ _ (.add (granted "")) rfl rfl rfl).1
  exact absurd hsame (by decide)

end Store
end TrustStore.Sqlite
