import Mathlib.Data.List.Induction
import TrustStore.Sqlite.Lookup

/-!
# What a filtered query visits

A query is filtered by application, feature, interval and answer, where the most recent filter of
a kind counts. Each kind has parameters of its own in the select statement, and a parameter that
is not bound compares its column with itself.
-/

namespace TrustStore.Sqlite

open TrustStore.Base

/-- The kinds of filters. -/
inductive FilterKind where
  | applicationId
  | feature
  | interval
  | answer
  deriving DecidableEq

/-- All kinds of filters. -/
def FilterKind.all : List FilterKind := [.applicationId, .feature, .interval, .answer]

/-- A filter with its argument. -/
inductive Filter where
  | applicationId (id : String)
  | feature (feature : Feature)
  | interval (first last : Timestamp)
  | answer (answer : Answer)
  deriving DecidableEq

namespace Filter

/-- The kind of a filter. -/
def kind : Filter → FilterKind
  | applicationId _ => .applicationId
  | feature _ => .feature
  | interval _ _ => .interval
  | answer _ => .answer

/-- The rows that a filter lets through. -/
def admits : Filter → Row → Bool
  | applicationId id, row => row.applicationId = .text id
  | feature f, row => row.feature = .integer f.value.toInt64
  | interval first last, row =>
    match row.timestamp with
    | .integer i => first ≤ i ∧ i ≤ last
    | _ => false
  | answer a, row => row.answer = .integer a.toInt32.toInt64

/-- The call that sets a filter. -/
def set : Filter → Query.Method Unit
  | applicationId id => Query.forApplicationId id
  | feature f => Query.forFeature f
  | interval first last => Query.forInterval first last
  | answer a => Query.forAnswer a

/-- What a filter binds. -/
def bind (b : Bindings) : Filter → Bindings
  | applicationId id => if id = "" then b else Function.update b 1 (.text id)
  | feature f => Function.update b 2 (.integer f.value.toInt64)
  | interval first last => Function.update (Function.update b 3 (.integer first)) 4 (.integer last)
  | answer a => Function.update b 5 (.integer a.toInt32.toInt64)

end Filter

/-- The most recent filter of a kind. -/
def latest (filters : List Filter) (kind : FilterKind) : Option Filter :=
  filters.reverse.find? fun filter => filter.kind = kind

/-- The most recent filters of all kinds let a row through. -/
def admitted (filters : List Filter) (row : Row) : Bool :=
  FilterKind.all.all fun kind => (latest filters kind).all fun filter => filter.admits row

/-- No column of the row is `NULL`. -/
structure Row.HasValues (row : Row) : Prop where
  applicationId : row.applicationId ≠ .null
  feature : row.feature ≠ .null
  timestamp : row.timestamp ≠ .null
  answer : row.answer ≠ .null

private theorem newestFirst_refl (row : Row) : newestFirst row row := by
  cases h : row.timestamp <;> simp [newestFirst, h, Value.le]

/-! ### What is selected -/

/-- The part of the `WHERE` clause for a kind of filters. -/
def FilterKind.selects (b : Bindings) (row : Row) : FilterKind → Bool
  | applicationId => row.applicationId.equals ((b 1).ifNull row.applicationId)
  | feature => row.feature.equals ((b 2).ifNull row.feature)
  | interval => row.timestamp.between ((b 3).ifNull row.timestamp) ((b 4).ifNull row.timestamp)
  | answer => row.answer.equals ((b 5).ifNull row.answer)

private theorem selects_eq_all (b : Bindings) (row : Row) :
    selects b row = FilterKind.all.all fun kind => kind.selects b row := by
  simp [selects, FilterKind.all, FilterKind.selects, Bool.and_assoc]

/-- Without a filter of the kind, every row is selected. -/
private theorem selects_none {row : Row} (h : row.HasValues) (kind : FilterKind) :
    kind.selects Bindings.none row = true := by
  cases kind with
  | applicationId =>
    rw [FilterKind.selects, Bindings.none, Value.equals_ifNull_null]
    exact decide_eq_true h.applicationId
  | feature =>
    rw [FilterKind.selects, Bindings.none, Value.equals_ifNull_null]
    exact decide_eq_true h.feature
  | interval =>
    exact (Value.between_ifNull_null row.timestamp).trans (decide_eq_true h.timestamp)
  | answer =>
    rw [FilterKind.selects, Bindings.none, Value.equals_ifNull_null]
    exact decide_eq_true h.answer

private theorem between_integers (a : Value) (first last : Int64) :
    a.between (.integer first) (.integer last) =
      match a with
      | .integer i => decide (first ≤ i ∧ i ≤ last)
      | _ => false := by
  cases a <;> simp [Value.between, Value.le]

/-- A filter decides its own kind. -/
private theorem selects_bind_same {filter : Filter} (hid : filter ≠ .applicationId "")
    (b : Bindings) (row : Row) : filter.kind.selects (filter.bind b) row = filter.admits row := by
  cases filter with
  | applicationId id =>
    have hid' : id ≠ "" := fun h => hid (h ▸ rfl)
    simp only [Filter.kind, FilterKind.selects, Filter.bind, if_neg hid', Function.update_self]
    exact Value.equals_ifNull (by simp)
  | feature feature =>
    simp only [Filter.kind, FilterKind.selects, Filter.bind, Function.update_self]
    exact Value.equals_ifNull (by simp)
  | interval first last =>
    simp [Filter.kind, FilterKind.selects, Filter.bind, Value.ifNull, between_integers,
      Filter.admits]
  | answer answer =>
    simp only [Filter.kind, FilterKind.selects, Filter.bind, Function.update_self]
    exact Value.equals_ifNull (by simp)

/-- A filter leaves the other kinds alone. -/
private theorem selects_bind_other {filter : Filter} {kind : FilterKind}
    (hkind : filter.kind ≠ kind) (b : Bindings) (row : Row) :
    kind.selects (filter.bind b) row = kind.selects b row := by
  cases filter <;> cases kind <;>
    simp_all [Filter.kind, FilterKind.selects, Filter.bind] <;> split <;> simp

/-- A further filter is the most recent one of its kind. -/
private theorem latest_append (filters : List Filter) (filter : Filter) (kind : FilterKind) :
    latest (filters ++ [filter]) kind =
      if filter.kind = kind then some filter else latest filters kind := by
  simp only [latest, List.reverse_append, List.reverse_singleton, List.singleton_append,
    List.find?_cons]
  split
  next h => rw [if_pos (by simpa using h)]
  next h => rw [if_neg (by simpa using h)]

/-- Filters select the rows that the most recent ones let through. -/
theorem selects_filters {filters : List Filter} (hids : ∀ filter ∈ filters,
    filter ≠ .applicationId "") {row : Row} (hrow : row.HasValues) :
    selects (filters.foldl Filter.bind Bindings.none) row = admitted filters row := by
  have hkind : ∀ kind : FilterKind,
      kind.selects (filters.foldl Filter.bind Bindings.none) row =
        (latest filters kind).all fun filter => filter.admits row := by
    induction filters using List.reverseRecOn with
    | nil => exact fun kind => selects_none hrow kind
    | append_singleton filters filter ih =>
      intro kind
      rw [List.foldl_append, List.foldl_cons, List.foldl_nil, latest_append]
      by_cases h : filter.kind = kind
      · rw [if_pos h, ← h]
        exact selects_bind_same (hids filter (by simp)) _ row
      · rw [if_neg h, selects_bind_other h]
        exact ih (fun f hf => hids f (List.mem_append_left _ hf)) kind
  rw [selects_eq_all, admitted]
  simp only [hkind]

namespace PreparedStatement

/-- The calls on the select statement that set a filter. -/
def bindFilter : Filter → Action (PreparedStatement .select) Unit
  | .applicationId id => bindText 1 id
  | .feature f => bindInt64 2 f.value.toInt64
  | .interval first last => do
    bindInt64 3 first
    bindInt64 4 last
  | .answer a => bindInt 5 a.toInt32

/-- The calls that set some filters. -/
def bindFilters : List Filter → Action (PreparedStatement .select) Unit
  | [] => return
  | filter :: filters => do
    bindFilter filter
    bindFilters filters

variable {p q : PreparedStatement .select} {bindings : Bindings}

/-- A filter is bound, unless a call fails. -/
private theorem bindFilter_staged (hq : Staged p q bindings) (filter : Filter) :
    (∃ r, (bindFilter filter).exec q = (.ok (), r) ∧ Staged p r (filter.bind bindings)) ∨
    Aborted p ((bindFilter filter).exec q) ∧ p.db.faults ≠ [] := by
  cases filter with
  | applicationId id => exact bindText_staged hq 1 id
  | feature f => exact bindInt64_staged hq 2 f.value.toInt64
  | interval first last =>
    rcases bindInt64_staged hq 3 first with ⟨r, h, hr⟩ | ⟨h, hf⟩
    · rw [bindFilter, Fallible.exec_bind_ok h]
      exact bindInt64_staged hr 4 last
    · exact .inr ⟨h.bind, hf⟩
  | answer a => exact bindInt64_staged hq 5 a.toInt32.toInt64

/-- Filters are bound in order, unless a call fails. -/
theorem bindFilters_staged (hq : Staged p q bindings) (filters : List Filter) :
    (∃ r, (bindFilters filters).exec q = (.ok (), r) ∧
      Staged p r (filters.foldl Filter.bind bindings)) ∨
    Aborted p ((bindFilters filters).exec q) ∧ p.db.faults ≠ [] := by
  induction filters generalizing q bindings with
  | nil => exact .inl ⟨q, rfl, hq⟩
  | cons filter filters ih =>
    rw [bindFilters, List.foldl_cons]
    rcases bindFilter_staged hq filter with ⟨r, h, hr⟩ | ⟨h, hf⟩
    · rw [Fallible.exec_bind_ok h]
      exact ih hr
    · exact .inr ⟨h.bind, hf⟩

end PreparedStatement

namespace Query

/-- Set some filters. -/
def setFilters : List Filter → Method Unit
  | [] => return
  | filter :: filters => do
    filter.set
    setFilters filters

/-- Read the current request and move on, a number of times: the requests that were read. -/
def visit : Nat → Method (List Request)
  | 0 => return []
  | n + 1 => do
    let request ← current
    next
    return request :: (← visit n)

/-- Filter a query, execute it, and visit a number of results. -/
def visitFiltered (filters : List Filter) (n : Nat) : Method (List Request) := do
  setFilters filters
  execute
  visit n

private theorem setFilters_eq (filters : List Filter) :
    setFilters filters = onSelect (PreparedStatement.bindFilters filters) := by
  have hset : ∀ filter : Filter, filter.set = onSelect (PreparedStatement.bindFilter filter) := by
    intro filter
    cases filter with
    | interval first last => exact (onSelect_bind _ _).symm
    | _ => rfl
  induction filters with
  | nil => exact (Fallible.zoom_pure (fun _ => rfl) ()).symm
  | cons filter filters ih =>
    rw [setFilters, PreparedStatement.bindFilters, onSelect_bind, hset, ih]

/-- Visiting takes the results in order, and no more than there are. -/
private theorem visit_delivered (q : Query) (rows : List Row) (n : Nat) (db : Connection) :
    (∃ db', (visit n).exec (q.delivered rows, db) =
        (.ok ((rows.take n).map Row.request), q.delivered (rows.drop n), db') ∧ n ≤ rows.length) ∨
    ∃ e t, (visit n).exec (q.delivered rows, db) = (.error e, t) ∧
      (db.faults ≠ [] ∨ rows.length < n) := by
  induction n generalizing rows db with
  | zero => exact .inl ⟨db, rfl, Nat.zero_le _⟩
  | succ n ih =>
    cases rows with
    | nil =>
      have hcurrent : current.exec (q.delivered [], db) =
          (.error .noCurrentResult, q.delivered [], db) := rfl
      exact .inr ⟨_, _, Fallible.exec_bind_error hcurrent, .inr (Nat.succ_pos n)⟩
    | cons row rest =>
      rw [visit, Fallible.exec_bind_ok (current_delivered q row rest db)]
      rcases next_cases (q.delivered (row :: rest), db) with ⟨-, h⟩ | ⟨code, hf, e, h⟩
      · have hpending : (selecting (q.delivered (row :: rest), db)).pending = rest := rfl
        have hmoved : (q.delivered (row :: rest)).delivered rest = q.delivered rest := by
          cases rest <;> rfl
        rw [hpending, hmoved] at h
        rw [Fallible.exec_bind_ok h]
        rcases ih rest db.spend with ⟨db', h', hle⟩ | ⟨e, t, h', hwhy⟩
        · rw [Fallible.exec_bind_ok h']
          exact .inl ⟨db', rfl, Nat.succ_le_succ hle⟩
        · refine .inr ⟨e, t, Fallible.exec_bind_error h', ?_⟩
          rcases hwhy with hf | hlt
          · left
            intro hnil
            exact hf (by simp [hnil])
          · exact .inr (Nat.succ_lt_succ hlt)
      · refine .inr ⟨e, _, Fallible.exec_bind_error h, .inl fun hnil => ?_⟩
        simp [Connection.fault_eq_none hnil] at hf

/-- The query was just made, or its filters were just cleared. -/
def Cleared (s : Query × Connection) : Prop :=
  (∃ db, create.exec db = (.ok s.1, s.2)) ∨ ∃ r, all.exec r = (.ok (), s)

private theorem Cleared.selectStatement {s : Query × Connection} (h : Cleared s) :
    s.1.selectStatement = Statement.prepared .select := by
  rcases h with ⟨db, h⟩ | ⟨r, h⟩
  · rcases create_cases db with hcreate | ⟨-, e, faults, hcreate⟩
    · rw [hcreate] at h
      cases s
      cases h
      rfl
    · rw [hcreate] at h
      cases h
  · rw [all, ← onSelect_bind] at h
    rcases (selecting r).reset_cases with ⟨-, hreset⟩ | ⟨-, e, hreset⟩
    · rcases ((selecting r).moved .ready).clearBindings_cases with ⟨-, hclear⟩ | ⟨-, e, hclear⟩
      · rw [onSelect_exec ((Fallible.exec_bind_ok hreset).trans hclear)] at h
        cases h
        rfl
      · rw [onSelect_exec ((Fallible.exec_bind_ok hreset).trans hclear)] at h
        cases h
    · rw [onSelect_exec (Fallible.exec_bind_error hreset)] at h
      cases h

/-- The rows that a filtered query visits. -/
def visited (s : Query × Connection) (filters : List Filter) : List Row :=
  s.2.engine.sort (s.2.requests.filter (admitted filters))

private theorem status_delivered (q : Query) (rows : List Row) (n : Nat) :
    (q.delivered (rows.drop n)).status = if n < rows.length then .hasMoreResults else .eor := by
  split
  next h =>
    rw [List.drop_eq_getElem_cons h]
    rfl
  next h =>
    rw [List.drop_eq_nil_of_le (Nat.le_of_not_lt h)]
    rfl

/-- A filtered query visits the rows that the filters let through, in order, unless a call fails or
there are no more. -/
theorem visitFiltered_cases {s : Query × Connection} (hs : Cleared s)
    (hvalues : ∀ row ∈ s.2.requests, row.HasValues) {filters : List Filter}
    (hids : ∀ filter ∈ filters, filter ≠ .applicationId "") (n : Nat) :
    (∃ t, (visitFiltered filters n).exec s =
        (.ok (((visited s filters).take n).map Row.request), t) ∧ n ≤ (visited s filters).length ∧
        t.1.status = if n < (visited s filters).length then .hasMoreResults else .eor) ∨
    ∃ e t, (visitFiltered filters n).exec s = (.error e, t) ∧
      (s.2.faults ≠ [] ∨ (visited s filters).length < n) := by
  have hstatement := hs.selectStatement
  have hp : PreparedStatement.Staged (selecting s) (selecting s) Bindings.none := by
    refine ⟨?_, ?_, ⟨rfl, id⟩, rfl⟩
    · rw [selecting, hstatement]
      rfl
    · rw [selecting, hstatement]
      rfl
  rw [visitFiltered, setFilters_eq]
  rcases PreparedStatement.bindFilters_staged hp filters with
    ⟨p, h, hbound⟩ | ⟨⟨e, p, h, -⟩, hf⟩
  · rw [Fallible.exec_bind_ok (onSelect_exec h)]
    let t : Query × Connection := ({ s.1 with selectStatement := p.statement }, p.db)
    have hresults : results t = visited s filters := by
      have hengine : p.db.engine = s.2.engine := hbound.advances.engine
      have hrequests : p.db.requests = s.2.requests := hbound.requests
      have hbindings : p.statement.bindings = _ := hbound.bound
      rw [results, visited]
      simp only [t, hengine, hrequests, hbindings]
      rw [List.filter_congr fun row hrow => selects_filters hids (hvalues row hrow)]
    have hfaults : s.2.faults = [] → p.db.faults = [] := hbound.advances.faults
    rcases execute_cases t with ⟨-, hexecute⟩ | ⟨hfails, e, cursor, db, hexecute, -⟩
    · rw [Fallible.exec_bind_ok hexecute, hresults]
      rcases visit_delivered t.1 (visited s filters) n t.2.spend.spend with
        ⟨db, hvisit, hle⟩ | ⟨e, u, hvisit, hwhy⟩
      · exact .inl ⟨_, hvisit, hle, status_delivered t.1 _ n⟩
      · refine .inr ⟨e, u, hvisit, hwhy.imp_left fun hf hnil => hf ?_⟩
        simp [t, hfaults hnil]
    · refine .inr ⟨e, _, Fallible.exec_bind_error hexecute, .inl fun hnil => ?_⟩
      have hready : t.1.selectStatement.cursor = .ready := hbound.cursor
      rcases hfails with (hf | hf) | hf
      · exact hf (Connection.fault_eq_none (hfaults hnil))
      · simp [selecting, hready, Cursor.errorCode] at hf
      · exact hf (Connection.fault_eq_none (by simp [t, hfaults hnil]))
  · exact .inr ⟨e, _, Fallible.exec_bind_error (onSelect_exec h), .inl hf⟩

/-- A filtered query visits exactly the rows that the most recent filter of each kind lets through,
each once and newest first, until it is at the end of its results. Where no call of SQLite fails,
it gets there. -/
theorem visits_admitted {s : Query × Connection} (hs : Cleared s)
    (hvalues : ∀ row ∈ s.2.requests, row.HasValues) {filters : List Filter}
    (hids : ∀ filter ∈ filters, filter ≠ .applicationId "") :
    ∃ rows : List Row, rows.Perm (s.2.requests.filter (admitted filters)) ∧
      rows.Pairwise newestFirst ∧
      (∀ row ∈ s.2.requests, admitted filters row = true →
        ∃ first, rows.head? = some first ∧ newestFirst first row) ∧
      (∀ n requests t, (visitFiltered filters n).exec s = (.ok requests, t) →
        n ≤ rows.length ∧ requests = (rows.take n).map Row.request ∧
          t.1.status = if n < rows.length then .hasMoreResults else .eor) ∧
      (s.2.faults = [] → Fallible.Returns (visitFiltered filters rows.length) s) := by
  have hperm : (visited s filters).Perm (s.2.requests.filter (admitted filters)) :=
    s.2.engine.sort_perm _
  have hsorted : (visited s filters).Pairwise newestFirst := s.2.engine.sort_sorted _
  refine ⟨visited s filters, hperm, hsorted, ?_, ?_, ?_⟩
  · intro row hrow hadmitted
    have hmem : row ∈ visited s filters :=
      hperm.mem_iff.mpr (List.mem_filter.mpr ⟨hrow, hadmitted⟩)
    cases hvisited : visited s filters with
    | nil =>
      rw [hvisited] at hmem
      cases hmem
    | cons first rest =>
      rw [hvisited] at hmem hsorted
      refine ⟨first, rfl, ?_⟩
      rcases List.mem_cons.mp hmem with rfl | hrest
      · exact newestFirst_refl row
      · exact List.rel_of_pairwise_cons hsorted hrest
  · intro n requests t h
    rcases visitFiltered_cases hs hvalues hids n with ⟨u, hvisit, hle, hstatus⟩ | ⟨e, u, hvisit, -⟩
    · rw [hvisit] at h
      cases h
      exact ⟨hle, rfl, hstatus⟩
    · rw [hvisit] at h
      cases h
  · intro hnil
    rcases visitFiltered_cases hs hvalues hids (visited s filters).length with
      ⟨t, hvisit, -⟩ | ⟨e, t, -, hf | hlt⟩
    · exact ⟨_, t, hvisit⟩
    · exact absurd hnil hf
    · exact absurd hlt (Nat.lt_irrefl _)

/-- A table with two answers to one application, the newer one first, and one to another. -/
def threeAnswers : Connection :=
  ⟨Engine.stable, [Row.ofRequest 1 ⟨"app", ⟨1⟩, 9, .granted⟩,
    Row.ofRequest 2 ⟨"app", ⟨1⟩, 5, .denied⟩, Row.ofRequest 3 ⟨"other", ⟨1⟩, 7, .granted⟩], []⟩

/-- Limited first to the other application and then to this one, a query visits both answers. -/
theorem visits_admitted_threeAnswers :
    ∃ (rows : List Row) (t : Query × Connection),
      (visitFiltered [.applicationId "other", .applicationId "app"] rows.length).exec
        (fresh, threeAnswers) = (.ok (rows.map Row.request), t) ∧ t.1.status = .eor ∧
      rows.Perm [Row.ofRequest 1 ⟨"app", ⟨1⟩, 9, .granted⟩,
        Row.ofRequest 2 ⟨"app", ⟨1⟩, 5, .denied⟩] ∧ rows.Pairwise newestFirst := by
  have hvalues : ∀ row ∈ threeAnswers.requests, row.HasValues := by
    intro row hrow
    simp only [threeAnswers, List.mem_cons, List.not_mem_nil, or_false] at hrow
    rcases hrow with rfl | rfl | rfl <;> constructor <;> simp [Row.ofRequest]
  have hcleared : Cleared (fresh, threeAnswers) := .inl ⟨threeAnswers, rfl⟩
  have hids : ∀ filter ∈ [Filter.applicationId "other", .applicationId "app"],
      filter ≠ .applicationId "" := by decide
  obtain ⟨rows, hperm, hsorted, -, hvisits, hreturns⟩ := visits_admitted hcleared hvalues hids
  obtain ⟨requests, t, hvisit⟩ := hreturns rfl
  obtain ⟨-, hrequests, hstatus⟩ := hvisits _ _ _ hvisit
  rw [List.take_length] at hrequests
  rw [hrequests] at hvisit
  rw [if_neg (Nat.lt_irrefl _)] at hstatus
  exact ⟨rows, t, hvisit, hstatus, hperm, hsorted⟩

end Query
end TrustStore.Sqlite
