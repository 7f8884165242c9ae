import TrustStore.Sqlite.Store

/-!
# Looking up an application and a feature

What the check made before prompting finds in the table: a new query, limited to a non-empty
application id and a feature, delivers the newest of the rows that `add` has written for them.
-/

namespace TrustStore.Sqlite

open TrustStore.Base

/-- The request that `current` reads from a row. -/
def Row.request (row : Row) : Request := Query.request ⟨Bindings.none, .row row []⟩

/-- The row of a request gives its answer back. -/
theorem Row.answer_ofRequest (id : Int64) (request : Request) :
    (Row.ofRequest id request).request.answer = request.answer := by
  simp [Row.request, Query.request, Statement.columnInt, Statement.columnInt64,
    Statement.column, Cursor.position, Row.column, Row.ofRequest]

/-- The row of a request gives its time back. -/
theorem Row.when_ofRequest (id : Int64) (request : Request) :
    (Row.ofRequest id request).request.when = request.when := by
  simp [Row.request, Query.request, Statement.columnInt64, Statement.column,
    Cursor.position, Row.column, Row.ofRequest]

/-- `current` reads nothing but the row that the statement is positioned on. -/
theorem request_eq {stmt : Statement .select} {row : Row} (h : stmt.cursor.position = some row) :
    Query.request stmt = row.request := by
  have hcolumn : ∀ index,
      stmt.column index = (⟨Bindings.none, .row row []⟩ : Statement .select).column index := by
    intro index
    rw [Statement.column, h]
    rfl
  simp only [Row.request, Query.request, Statement.columnText, Statement.columnInt,
    Statement.columnInt64, hcolumn]

/-- The current request of a query that a step has positioned on a row. -/
theorem Query.current_delivered (q : Query) (row : Row) (rest : List Row) (db : Connection) :
    Query.current.exec (q.delivered (row :: rest), db) =
      (.ok row.request, q.delivered (row :: rest), db) := by
  have hpos : (q.delivered (row :: rest)).selectStatement.cursor.position = some row := rfl
  rw [← request_eq hpos]
  rfl

/-- The parameters that limit a query to an application and a feature. -/
def narrowed (id : String) (feature : Feature) : Bindings :=
  Function.update (Function.update Bindings.none 1 (.text id)) 2
    (.integer feature.value.toInt64)

/-- Only rows of the application and the feature are selected. -/
theorem selects_narrowed (id : String) (feature : Feature) (row : Row) :
    selects (narrowed id feature) row = decide (row.applicationId = .text id ∧
      row.feature = .integer feature.value.toInt64 ∧ row.timestamp ≠ .null ∧
        row.answer ≠ .null) := by
  have hid : narrowed id feature 1 = .text id := rfl
  have hfeature : narrowed id feature 2 = .integer feature.value.toInt64 := rfl
  have hnull : ∀ index, 3 ≤ index → narrowed id feature index = .null := by
    intro index hindex
    have h₁ : index ≠ 1 := by omega
    have h₂ : index ≠ 2 := by omega
    simp [narrowed, Function.update_of_ne, h₁, h₂, Bindings.none]
  rw [selects, hid, hfeature, hnull 3 (by decide), hnull 4 (by decide), hnull 5 (by decide),
    Value.equals_ifNull (by simp), Value.equals_ifNull (by simp), Value.between_ifNull_null,
    Value.equals_ifNull_null]
  simp [Bool.and_assoc]

/-- The rows of an application and a feature, newest first. -/
def Connection.matching (db : Connection) (id : String) (feature : Feature) : List Row :=
  db.engine.sort (db.requests.filter (selects (narrowed id feature)))

/-- Every matching row is a row of the application and the feature. -/
theorem mem_matching {db : Connection} {id : String} {feature : Feature} {row : Row} :
    row ∈ db.matching id feature ↔ row ∈ db.requests ∧ row.applicationId = .text id ∧
      row.feature = .integer feature.value.toInt64 ∧ row.timestamp ≠ .null ∧
        row.answer ≠ .null := by
  rw [Connection.matching, (db.engine.sort_perm _).mem_iff, List.mem_filter, selects_narrowed,
    decide_eq_true_eq]

open PreparedStatement (Advances)

namespace Query

/-- A new query that is limited to a non-empty application id and a feature and executed
delivers the matching rows, unless a call fails; the table stays in any case. -/
theorem narrow_cases (db : Connection) {id : String} (hid : id ≠ "") (feature : Feature) :
    (∃ q db', (do forApplicationId id; forFeature feature; execute : Method Unit).exec
        (fresh, db) = (.ok (), delivered q (db.matching id feature), db') ∧
      Advances db db' ∧ db'.requests = db.requests) ∨
    (∃ e q db', (do forApplicationId id; forFeature feature; execute : Method Unit).exec
        (fresh, db) = (.error e, q, db') ∧
      Advances db db' ∧ db'.requests = db.requests ∧ db.faults ≠ []) := by
  let p := selecting (fresh, db)
  have hp : PreparedStatement.Staged p p Bindings.none := ⟨rfl, rfl, ⟨rfl, fun h => h⟩, rfl⟩
  rcases PreparedStatement.bindText_staged hp 1 id with ⟨r, h, hr⟩ | ⟨⟨e, r, h, hadv, hreq⟩, hf⟩
  · have hexec : (forApplicationId id).exec (fresh, db) = _ := onSelect_exec h
    rw [Fallible.exec_bind_ok hexec]
    rw [if_neg hid] at hr
    rcases PreparedStatement.bindInt64_staged hr 2 feature.value.toInt64 with
      ⟨r', h, hr⟩ | ⟨⟨e, r', h, hadv, hreq⟩, hf⟩
    · have hexec : (forFeature feature).exec
        ({ fresh with selectStatement := r.statement }, r.db) = _ := onSelect_exec h
      rw [Fallible.exec_bind_ok hexec]
      let t : Query × Connection := ({ fresh with selectStatement := r'.statement }, r'.db)
      have hresults : results t = db.matching id feature := by
        have hbindings : t.1.selectStatement.bindings = narrowed id feature := hr.bound
        have hdb : t.2 = r'.db := rfl
        rw [results, hbindings, hdb, hr.requests, hr.advances.engine]
        rfl
      rcases execute_cases t with ⟨_, h⟩ | ⟨hfails, e, cursor, db', h, _, hreq, hadv⟩
      · left
        rw [hresults] at h
        refine ⟨t.1, _, h, ?_, hr.requests⟩
        exact hr.advances.trans ((Advances.spend r'.db).trans (Advances.spend r'.db.spend))
      · right
        refine ⟨e, _, db', h, hr.advances.trans hadv, hreq.trans hr.requests, fun hnil => ?_⟩
        have hnil : r'.db.faults = [] := hr.advances.faults hnil
        rcases hfails with (hf | hf) | hf
        · exact hf (Connection.fault_eq_none hnil)
        · have hready : t.1.selectStatement.cursor = .ready := hr.cursor
          simp [selecting, hready, Cursor.errorCode] at hf
        · exact hf (Connection.fault_eq_none (by simp [t, hnil]))
    · right
      have hexec : (forFeature feature).exec
        ({ fresh with selectStatement := r.statement }, r.db) = _ := onSelect_exec h
      exact ⟨e, _, _, Fallible.exec_bind_error hexec, hadv, hreq, hf⟩
  · right
    have hexec : (forApplicationId id).exec (fresh, db) = _ := onSelect_exec h
    exact ⟨e, _, _, Fallible.exec_bind_error hexec, hadv, hreq, hf⟩

end Query
namespace Store

/-- The rows and the insert statement are as they were. -/
structure OnlyReads (s t : Store) : Prop extends Advances s.db t.db where
  requests : t.db.requests = s.db.requests
  insertStatement : t.insertStatement = s.insertStatement

/-- Readers in a row. -/
theorem OnlyReads.trans {s t r : Store} (h : OnlyReads s t) (h' : OnlyReads t r) :
    OnlyReads s r :=
  ⟨h.toAdvances.trans h'.toAdvances, h'.requests.trans h.requests,
    h'.insertStatement.trans h.insertStatement⟩

/-- Destroying a query reads nothing and writes nothing. -/
theorem OnlyReads.destroy (q : QueryId) (s : Store) : OnlyReads s (destroy q s) :=
  ⟨⟨rfl, fun h => h⟩, rfl, rfl⟩

/-- A query is created fresh, or an exception leaves all as it was. -/
theorem query_cases (s : Store) :
    (∃ q t, interface.query.exec s = (.ok q, t) ∧ OnlyReads s t ∧ t.queries q = Query.fresh) ∨
    (∃ e t, interface.query.exec s = (.error e, t) ∧ OnlyReads s t ∧ s.db.faults ≠ []) := by
  change (∃ q t, query.exec s = _ ∧ _) ∨ (∃ e t, query.exec s = _ ∧ _)
  rw [query, Fallible.exec_ofFn]
  rcases Query.create_cases s.db with h | ⟨hf, e, faults, h⟩
  · left
    simp only [h]
    refine ⟨_, _, rfl, ⟨⟨rfl, fun hnil => ?_⟩, rfl, rfl⟩, ?_⟩
    · simp [hnil]
    · simp
  · right
    simp only [h]
    exact ⟨e, _, rfl, ⟨⟨rfl, fun hnil => absurd hnil hf⟩, rfl, rfl⟩, hf⟩

/-- The status of a query is read as it is. -/
theorem status_exec (s : Store) (q : QueryId) :
    (interface.status q).exec s = (.ok (s.queries q).status, s) := rfl

/-- The current request of a query that stands on a row. -/
theorem current_exec {s : Store} {q : QueryId} {query : Query} {row : Row} {rest : List Row}
    (h : s.queries q = query.delivered (row :: rest)) :
    (interface.current q).exec s = (.ok row.request, s) := by
  have hcurrent : Query.current.exec (s.queries q, s.db) =
      (.ok row.request, s.queries q, s.db) := by
    rw [h]
    exact query.current_delivered row rest s.db
  refine (onQuery_exec hcurrent).trans ?_
  rw [Function.update_eq_self]

/-- On a fresh query the first of the matching rows is found, unless a call fails. -/
theorem lookup_cases (s : Store) {q : QueryId} (hq : s.queries q = Query.fresh) {id : String}
    (hid : id ≠ "") (feature : Feature) :
    (∃ t, (interface.lookup q id feature).exec s =
        (.ok ((s.db.matching id feature).head?.map Row.request), t) ∧ OnlyReads s t ∧
      ∀ row ∈ (s.db.matching id feature).head?,
        (interface.current q).exec t = (.ok row.request, t)) ∨
    (∃ e t, (interface.lookup q id feature).exec s = (.error e, t) ∧ OnlyReads s t ∧
      s.db.faults ≠ []) := by
  have hlookup : interface.lookup q id feature =
      onQuery q (do
        Query.forApplicationId id
        Query.forFeature feature
        Query.execute) >>= fun _ => do
      if (← interface.status q) = .hasMoreResults then
        return some (← interface.current q)
      return none := by
    simp only [TrustStore.Store.lookup, onQuery_bind, bind_assoc]
    rfl
  rw [hlookup]
  rcases Query.narrow_cases s.db hid feature with ⟨query, db, h, hadv, hreq⟩ |
    ⟨e, query, db, h, hadv, hreq, hf⟩
  · left
    rw [← hq] at h
    rw [Fallible.exec_bind_ok (onQuery_exec h)]
    let t : Store := { s with
      db := db
      queries := Function.update s.queries q (query.delivered (s.db.matching id feature)) }
    have hquery : t.queries q = query.delivered (s.db.matching id feature) := by simp [t]
    have hcurrent : ∀ row ∈ (s.db.matching id feature).head?,
        (interface.current q).exec t = (.ok row.request, t) := by
      intro row hrow
      obtain ⟨rest, hrows⟩ := List.head?_eq_some_iff.mp hrow
      exact current_exec (hquery.trans (congrArg query.delivered hrows))
    refine ⟨t, ?_, ⟨hadv, hreq, rfl⟩, hcurrent⟩
    change Fallible.exec _ t = _
    rw [Fallible.exec_bind_ok (status_exec t q), hquery]
    cases hrows : s.db.matching id feature with
    | nil => rfl
    | cons row rest =>
      have hmore : (query.delivered (row :: rest)).status = .hasMoreResults := rfl
      rw [if_pos hmore, Fallible.exec_bind_ok (hcurrent row (by simp [hrows]))]
      rfl
  · right
    rw [← hq] at h
    rw [Fallible.exec_bind_error (onQuery_exec h)]
    exact ⟨e, _, rfl, ⟨hadv, hreq, rfl⟩, hf⟩

end Store
end TrustStore.Sqlite
