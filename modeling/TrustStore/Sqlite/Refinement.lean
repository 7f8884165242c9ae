import TrustStore.Core.Ledger
import TrustStore.Sqlite.Unfailing

/-!
# The SQLite store keeps a ledger

Clients of the SQLite store against clients of a ledger, for the same operations in the same
order: as long as the requests survive the columns they are written to, and queries are used in
the order of the interface (filters before `execute`, `next` and `erase` on a result), they see
the same. What SQL leaves open orders and numbers the entries of the ledger.
-/

namespace TrustStore

open TrustStore.Base

/-- The requests that a row keeps as they are. -/
structure Recordable (request : Request) : Prop where
  origin : request.origin ≠ ""
  terminated : '\x00' ∉ request.origin.toList
  feature : Storable request.feature

instance (request : Request) : Decidable (Recordable request) :=
  decidable_of_iff
    (request.origin ≠ "" ∧ '\x00' ∉ request.origin.toList ∧ Storable request.feature)
    ⟨fun h => ⟨h.1, h.2.1, h.2.2⟩, fun h => ⟨h.origin, h.terminated, h.feature⟩⟩

namespace Sqlite

open TrustStore (Ledger)

/-! ### Entries and rows -/

/-- The row of an entry. -/
def rowOf (e : Ledger.Entry) : Row := Row.ofRequest e.number e.request

/-- The entry of a row. -/
def entryOf (r : Row) : Ledger.Entry := ⟨r.id, r.request⟩

/-- The entry of a recordable request is read back from its row. -/
theorem entryOf_rowOf {e : Ledger.Entry} (h : Recordable e.request) : entryOf (rowOf e) = e := by
  have hrequest : (rowOf e).request = e.request :=
    (request_eq_iff h.terminated rfl).mpr h.feature
  rw [entryOf, hrequest]
  rfl

/-- What a query is limited by, as its parameters. -/
def bindingsOf (c : Ledger.Criteria) : Bindings
  | 1 => c.applicationId.elim .null .text
  | 2 => c.feature.elim .null fun feature => .integer feature.value.toInt64
  | 3 => c.interval.elim .null fun interval => .integer interval.1
  | 4 => c.interval.elim .null fun interval => .integer interval.2
  | 5 => c.answer.elim .null fun answer => .integer answer.toInt32.toInt64
  | _ => .null

/-- The select statement selects the entries that meet the limits. -/
theorem selects_rowOf (c : Ledger.Criteria) {e : Ledger.Entry} (h : Recordable e.request) :
    selects (bindingsOf c) (rowOf e) = c.met e.request := by
  have hfeature : (rowOf e).feature = .integer e.request.feature.value.toInt64 :=
    congrArg Value.integer ((featureColumn_eq_iff _).mpr h.feature)
  have hanswer : ∀ a b : Answer, a.toInt32.toInt64 = b.toInt32.toInt64 ↔ a = b := by
    intro a b
    cases a <;> cases b <;> decide
  obtain ⟨applicationId, feature, interval, answer⟩ := c
  have h₁ : (rowOf e).applicationId.equals
      ((bindingsOf ⟨applicationId, feature, interval, answer⟩ 1).ifNull (rowOf e).applicationId) =
        applicationId.all fun id => decide (e.request.origin = id) := by
    cases applicationId <;>
      simp [bindingsOf, Value.equals, Value.ifNull, rowOf, Row.ofRequest]
  have h₂ : (rowOf e).feature.equals
      ((bindingsOf ⟨applicationId, feature, interval, answer⟩ 2).ifNull (rowOf e).feature) =
        feature.all fun feature => decide (e.request.feature = feature) := by
    rw [hfeature]
    cases feature with
    | none => simp [bindingsOf, Value.equals, Value.ifNull]
    | some feature =>
      have hiff : e.request.feature.value.toInt64 = feature.value.toInt64 ↔
          e.request.feature = feature := ⟨feature_inj, fun h => by rw [h]⟩
      simp [bindingsOf, Value.equals, Value.ifNull, hiff]
  have h₃ : (rowOf e).timestamp.between
      ((bindingsOf ⟨applicationId, feature, interval, answer⟩ 3).ifNull (rowOf e).timestamp)
      ((bindingsOf ⟨applicationId, feature, interval, answer⟩ 4).ifNull (rowOf e).timestamp) =
        interval.all fun bounds =>
          decide (bounds.1 ≤ e.request.when ∧ e.request.when ≤ bounds.2) := by
    cases interval with
    | none =>
      simp [bindingsOf, Value.ifNull, Value.between, Value.le, rowOf, Row.ofRequest]
    | some interval =>
      simp [bindingsOf, Value.ifNull, Value.between, Value.le, rowOf, Row.ofRequest]
  have h₄ : (rowOf e).answer.equals
      ((bindingsOf ⟨applicationId, feature, interval, answer⟩ 5).ifNull (rowOf e).answer) =
        answer.all fun answer => decide (e.request.answer = answer) := by
    cases answer <;>
      simp [bindingsOf, Value.equals, Value.ifNull, rowOf, Row.ofRequest, hanswer]
  rw [selects, h₁, h₂, h₃, h₄]
  rfl

/-- All requests of the entries are recordable. -/
def AllRecordable (entries : List Ledger.Entry) : Prop := ∀ e ∈ entries, Recordable e.request

/-- Entries in the order of their rows. -/
def Engine.sortEntries (engine : Engine) (entries : List Ledger.Entry) : List Ledger.Entry :=
  (engine.sort (entries.map rowOf)).map entryOf

/-- Rows are sorted as their entries are. -/
theorem map_sortEntries (engine : Engine) {entries : List Ledger.Entry}
    (h : AllRecordable entries) :
    (engine.sortEntries entries).map rowOf = engine.sort (entries.map rowOf) := by
  have hself : ∀ row ∈ engine.sort (entries.map rowOf), rowOf (entryOf row) = row := by
    intro row hrow
    rw [(engine.sort_perm _).mem_iff, List.mem_map] at hrow
    obtain ⟨e, he, rfl⟩ := hrow
    rw [entryOf_rowOf (h e he)]
  rw [Engine.sortEntries, List.map_map]
  exact (List.map_congr_left hself).trans (List.map_id _)

/-- Sorting entries loses none. -/
theorem sortEntries_perm (engine : Engine) {entries : List Ledger.Entry}
    (h : AllRecordable entries) : (engine.sortEntries entries).Perm entries := by
  have hperm := (engine.sort_perm (entries.map rowOf)).map entryOf
  rw [List.map_map] at hperm
  have hself : entries.map (entryOf ∘ rowOf) = entries :=
    (List.map_congr_left fun e he => entryOf_rowOf (h e he)).trans (List.map_id _)
  rw [hself] at hperm
  exact hperm

/-- Entries are sorted by their time, the newest first. -/
theorem sortEntries_newestFirst (engine : Engine) {entries : List Ledger.Entry}
    (h : AllRecordable entries) :
    (engine.sortEntries entries).Pairwise fun a b => b.request.when ≤ a.request.when := by
  have hrows := engine.sort_sorted (entries.map rowOf)
  rw [← map_sortEntries engine h, List.pairwise_map] at hrows
  exact hrows.imp fun hle => of_decide_eq_true hle

/-- The rules that an SQLite library keeps its ledger by. -/
def Engine.rules (engine : Engine) : Ledger.Rules Recordable where
  number entries := engine.rowid (entries.map rowOf)
  sort := engine.sortEntries
  sort_perm _ h := sortEntries_perm engine h
  sort_newestFirst _ h := sortEntries_newestFirst engine h

/-! ### Queries and stores -/

/-- Where the select statement stands for a query with these results before it. -/
def cursorOf : Option (List Ledger.Entry) → Cursor
  | none => .ready
  | some [] => .done
  | some (e :: rest) => .row (rowOf e) (rest.map rowOf)

/-- The query works as the one of the ledger does. -/
structure Query.Keeps (q : Query) (query : Ledger.Query) : Prop where
  status : q.status = query.status
  bindings : q.selectStatement.bindings = bindingsOf query.criteria
  cursor : q.selectStatement.cursor = cursorOf query.results
  deletes : q.deleteStatement.cursor.errorCode = none
  recordable : ∀ entries, query.results = some entries → AllRecordable entries
  standing : ∀ entries, query.results = some entries →
    query.status = if entries.isEmpty then .eor else .hasMoreResults
  noError : query.status ≠ .error

/-- The store keeps the ledger, and no call of SQLite will fail. -/
structure Store.Keeps (engine : Engine) (s : Store) (l : Ledger) : Prop where
  engine : s.db.engine = engine
  faults : s.db.faults = []
  requests : s.db.requests = l.entries.map rowOf
  recordable : AllRecordable l.entries
  deleting : s.deleteStatement.cursor.errorCode = none
  inserting : s.insertStatement.cursor.errorCode = none
  removing : s.removeApplicationStatement.cursor.errorCode = none
  queries : ∀ q, (s.queries q).Keeps (l.queries q)
  nextQuery : s.nextQuery = l.nextQuery

/-- A new query. -/
theorem Query.keeps_fresh : Query.fresh.Keeps Ledger.Query.fresh where
  status := rfl
  bindings := by
    funext index
    match index with
    | 0 | 1 | 2 | 3 | 4 | 5 | _ + 6 => rfl
  cursor := rfl
  deletes := rfl
  recordable _ h := by cases h
  standing _ h := by cases h
  noError := by decide

/-- A new store keeps the empty ledger. -/
theorem Store.keeps_empty (engine : Engine) : (Store.empty engine).Keeps engine Ledger.empty where
  engine := rfl
  faults := rfl
  requests := rfl
  recordable _ h := by cases h
  deleting := rfl
  inserting := rfl
  removing := rfl
  queries _ := Query.keeps_fresh
  nextQuery := rfl

/-! ### How the store has to be used -/

namespace Query

/-- The query is used as the interface intends: filters before it is executed, `next` and `erase`
on a result. An id is erased by its 32 bits. -/
def Supports (query : Ledger.Query) : QueryOperation → Prop
  | .all | .execute | .status => True
  | .forApplicationId id => id ≠ "" ∧ query.results = none
  | .forFeature _ | .forInterval _ _ | .forAnswer _ => query.results = none
  | .next => query.here ≠ none
  | .erase => query.status = .eor ∨ ∃ e ∈ query.here, e.number.toInt32.toInt64 = e.number
  | .current => query.status = .hasMoreResults → query.here ≠ none

instance (query : Ledger.Query) (operation : QueryOperation) :
    Decidable (Supports query operation) :=
  match operation with
  | .all | .execute | .status => isTrue trivial
  | .forApplicationId _ => inferInstanceAs (Decidable (_ ∧ _))
  | .forFeature _ | .forInterval _ _ | .forAnswer _ =>
    inferInstanceAs (Decidable (query.results = none))
  | .next => inferInstanceAs (Decidable (query.here ≠ none))
  | .erase => inferInstanceAs (Decidable (_ ∨ _))
  | .current => inferInstanceAs (Decidable (query.status = .hasMoreResults → query.here ≠ none))

end Query

/-- The operation is within what the SQLite store keeps of a ledger. -/
def Supported (c : Clients Ledger QueryId) : Operation → Prop
  | .add request => Recordable request
  | .removeApplication id => id ≠ ""
  | .reset | .query | .destroy _ => True
  | .onQuery n operation => ∀ q ∈ c.live n, Query.Supports (c.state.queries q) operation

instance (c : Clients Ledger QueryId) (operation : Operation) :
    Decidable (Supported c operation) :=
  match operation with
  | .add _ => inferInstanceAs (Decidable (Recordable _))
  | .removeApplication id => inferInstanceAs (Decidable (id ≠ ""))
  | .reset | .query | .destroy _ => isTrue trivial
  | .onQuery n _ => Option.decidableForallMem (o := c.live n)

/-! ### One operation -/

/-- The operations come out alike, and the store goes on keeping the ledger. -/
def Alike {α : Type} (engine : Engine) (m : Action Store α) (n : Action Ledger α) (s : Store)
    (l : Ledger) : Prop :=
  ∃ r s' l', m.exec s = (r, s') ∧ n.exec l = (r, l') ∧ s'.Keeps engine l'

namespace Query.Keeps

variable {q : Query} {query : Ledger.Query}

/-- A query that is kept was not halted. -/
theorem errorCode (h : q.Keeps query) : q.selectStatement.cursor.errorCode = none := by
  rw [h.cursor]
  match query.results with
  | none | some [] | some (_ :: _) => rfl

/-- A query delivers the rows of the entries that the ledger's stands before. -/
theorem delivered (h : q.Keeps query) {entries : List Ledger.Entry}
    (hentries : AllRecordable entries) :
    (q.delivered (entries.map rowOf)).Keeps (query.standing entries) := by
  have hrecordable : ∀ others, (query.standing entries).results = some others →
      AllRecordable others := by
    intro others hsome
    cases hsome
    exact hentries
  have hstanding : ∀ others, (query.standing entries).results = some others →
      (query.standing entries).status = if others.isEmpty then .eor else .hasMoreResults := by
    intro others hsome
    cases hsome
    rfl
  cases entries with
  | nil => exact ⟨rfl, h.bindings, rfl, h.deletes, hrecordable, hstanding,
      Status.noConfusion⟩
  | cons e rest => exact ⟨rfl, h.bindings, rfl, h.deletes, hrecordable, hstanding,
      Status.noConfusion⟩

/-- A query that was reset takes on another limit. -/
theorem limited (h : q.Keeps query) (hresults : query.results = none) {bindings : Bindings}
    {criteria : Ledger.Criteria} (hbindings : bindings = bindingsOf criteria) :
    ({ q with selectStatement := { q.selectStatement with bindings } } : Query).Keeps
      { query with criteria } where
  status := h.status
  bindings := hbindings
  cursor := h.cursor
  deletes := h.deletes
  recordable _ hsome := by simp [hresults] at hsome
  standing _ hsome := by simp [hresults] at hsome
  noError := h.noError

/-- A query is reset, and its limits are lifted. -/
theorem cleared (h : q.Keeps query) :
    q.cleared.Keeps { query with criteria := .none, results := none } where
  status := h.status
  bindings := Query.keeps_fresh.bindings
  cursor := rfl
  deletes := h.deletes
  recordable _ hsome := by cases hsome
  standing _ hsome := by cases hsome
  noError := h.noError

/-- On an entry, the query stands on its row. -/
theorem cursor_of_here (h : q.Keeps query) {e : Ledger.Entry} (he : query.here = some e) :
    query.results = some (e :: query.behind) ∧
      q.selectStatement.cursor = .row (rowOf e) (query.behind.map rowOf) ∧
        query.status = .hasMoreResults := by
  rw [Ledger.Query.here] at he
  split at he
  next hstatus =>
    obtain ⟨entries, hentries, hhead⟩ := Option.bind_eq_some_iff.mp he
    obtain ⟨rest, rfl⟩ := List.head?_eq_some_iff.mp hhead
    have hbehind : query.behind = rest := by
      rw [Ledger.Query.behind, hentries]
      rfl
    refine ⟨by rw [hbehind, hentries], ?_, hstatus⟩
    rw [h.cursor, hentries, hbehind]
    rfl
  next => cases he

/-- A query that is past its results stands on no entry. -/
theorem here_of_eor (hstatus : query.status = .eor) : query.here = none := by
  rw [Ledger.Query.here, if_neg (by simp [hstatus])]

end Query.Keeps

namespace Store.Keeps

variable {engine : Engine} {s : Store} {l : Ledger} {q : QueryId}

/-- A query goes over to another state on both sides. -/
theorem turn (h : s.Keeps engine l) {query : Query} {query' : Ledger.Query}
    (hquery : query.Keeps query') :
    ({ s with queries := Function.update s.queries q query } : Store).Keeps engine
      (l.turn q query') := by
  refine ⟨h.engine, h.faults, h.requests, h.recordable, h.deleting, h.inserting, h.removing,
    fun p => ?_, h.nextQuery⟩
  change (Function.update s.queries q query p).Keeps (Function.update l.queries q query' p)
  by_cases hp : p = q
  · subst hp
    rw [Function.update_self, Function.update_self]
    exact hquery
  · rw [Function.update_of_ne hp, Function.update_of_ne hp]
    exact h.queries p

/-- A method of a query that leaves the table alone. -/
private theorem alike_turn (h : s.Keeps engine l) {m : Query.Method Unit}
    {n : Action Ledger Unit} {query : Query} {query' : Ledger.Query}
    (hm : m.exec (s.queries q, s.db) = (.ok (), query, s.db))
    (hn : n.exec l = (.ok (), l.turn q query')) (hquery : query.Keeps query') :
    Alike engine (Store.onQuery q m) n s l :=
  ⟨.ok (), _, _, Store.onQuery_exec hm, hn, h.turn hquery⟩

/-- Setting a filter sets the limit. -/
private theorem alike_limit (h : s.Keeps engine l) (filter : Filter)
    (hid : filter ≠ .applicationId "") (hresults : (l.queries q).results = none)
    {set : Ledger.Criteria → Ledger.Criteria}
    (hset : ∀ c, filter.bind (bindingsOf c) = bindingsOf (set c)) :
    Alike engine (Store.onQuery q filter.set) (Ledger.limit q set) s l := by
  have hq := h.queries q
  have hready : (s.queries q).selectStatement.cursor = .ready := by
    rw [hq.cursor, hresults]
    rfl
  refine h.alike_turn (Query.set_exec h.faults hready hid) rfl (hq.limited hresults ?_)
  rw [hq.bindings, hset]

/-- A recordable request is entered. -/
theorem alike_add (h : s.Keeps engine l) {request : Request} (hrequest : Recordable request) :
    Alike engine (Store.add request) ((Ledger.interface engine.rules).add request) s l := by
  obtain ⟨statement, hready, hadd⟩ := add_exec_ne h.faults h.inserting hrequest.origin
  refine ⟨.ok (), _, _, hadd, rfl, h.engine, h.faults, ?_, ?_, h.deleting, hready, h.removing,
    h.queries, h.nextQuery⟩
  · change s.db.requests ++ [_] = (l.entries ++ [_]).map rowOf
    rw [List.map_append, h.requests, h.engine]
    rfl
  · intro e he
    rcases List.mem_append.mp he with he | he
    · exact h.recordable e he
    · rw [List.mem_singleton.mp he]
      exact hrequest

/-- The entries of an application are removed. -/
theorem alike_removeApplication (h : s.Keeps engine l) {id : String} (hid : id ≠ "") :
    Alike engine (Store.removeApplication id)
      ((Ledger.interface engine.rules).removeApplication id) s l := by
  refine ⟨.ok (), _, _, removeApplication_exec_ne h.faults h.removing hid, rfl, h.engine,
    h.faults, ?_, fun e he => h.recordable e (List.mem_of_mem_filter he), h.deleting,
    h.inserting, rfl, h.queries, h.nextQuery⟩
  change s.db.requests.filter _ = (l.entries.filter _).map rowOf
  rw [h.requests, List.filter_map]
  refine congrArg _ (List.filter_congr fun e _ => ?_)
  simp [rowOf, Row.ofRequest, Value.equals]

/-- All entries are removed. -/
theorem alike_reset (h : s.Keeps engine l) :
    Alike engine Store.reset (Ledger.interface engine.rules).reset s l :=
  ⟨.ok (), _, _, reset_exec h.faults h.deleting, rfl, h.engine, h.faults, rfl,
    fun _ he => (by cases he), rfl, h.inserting, h.removing, h.queries, h.nextQuery⟩

/-- A query is made. -/
theorem alike_query (h : s.Keeps engine l) :
    Alike engine Store.query (Ledger.interface engine.rules).query s l := by
  have hcreate : Query.create.exec s.db = (.ok Query.fresh, s.db) := by
    rcases Query.create_cases s.db with hcreate | ⟨hf, -⟩
    · rwa [Connection.spend_eq h.faults, Connection.spend_eq h.faults,
        Connection.spend_eq h.faults, Connection.spend_eq h.faults] at hcreate
    · exact absurd h.faults hf
  have hquery : Store.query.exec s = (.ok s.nextQuery, { s with
      queries := Function.update s.queries s.nextQuery Query.fresh
      nextQuery := s.nextQuery + 1 }) := by
    rw [Store.query, Fallible.exec_ofFn, hcreate]
  have hturn := h.turn (q := l.nextQuery) Query.keeps_fresh
  rw [h.nextQuery] at hquery
  exact ⟨.ok l.nextQuery, _, _, hquery, rfl, hturn.engine, hturn.faults, hturn.requests,
    hturn.recordable, hturn.deleting, hturn.inserting, hturn.removing, hturn.queries, rfl⟩

/-- A query is destroyed. -/
theorem destroy (h : s.Keeps engine l) :
    (Store.destroy q s).Keeps engine ((Ledger.interface engine.rules).destroy q l) :=
  h.turn Query.keeps_fresh

/-- The results of a query are the rows of the entries that the ledger selects. -/
theorem results_eq (h : s.Keeps engine l) : Query.results (s.queries q, s.db) =
    (l.selection engine.rules q).map rowOf := by
  have hselected : AllRecordable
      (l.entries.filter fun e => (l.queries q).criteria.met e.request) :=
    fun e he => h.recordable e (List.mem_of_mem_filter he)
  rw [Ledger.selection, Engine.rules, map_sortEntries engine hselected, Query.results, h.engine,
    h.requests, List.filter_map, (h.queries q).bindings]
  refine congrArg (fun entries : List Ledger.Entry => engine.sort (entries.map rowOf)) ?_
  exact List.filter_congr fun e he => selects_rowOf _ (h.recordable e he)

/-- A query is executed. -/
private theorem alike_execute (h : s.Keeps engine l) :
    Alike engine (Store.onQuery q Query.execute) ((Ledger.interface engine.rules).execute q)
      s l := by
  have hq := h.queries q
  have hexecute := Query.execute_exec h.faults hq.errorCode
  rw [h.results_eq] at hexecute
  refine h.alike_turn hexecute rfl (hq.delivered fun e he => ?_)
  rw [Ledger.selection, (engine.rules.sort_perm _ _).mem_iff] at he
  · exact h.recordable e (List.mem_of_mem_filter he)
  · exact fun e he => h.recordable e (List.mem_of_mem_filter he)

/-- The entries behind the one that a query stands on. -/
private theorem recordable_behind (h : s.Keeps engine l) : AllRecordable (l.queries q).behind := by
  intro e he
  rw [Ledger.Query.behind] at he
  cases hresults : (l.queries q).results with
  | none =>
    rw [hresults] at he
    cases he
  | some entries =>
    rw [hresults] at he
    exact (h.queries q).recordable entries hresults e (List.mem_of_mem_tail he)

/-- A query moves on. -/
private theorem alike_next (h : s.Keeps engine l) {e : Ledger.Entry}
    (he : (l.queries q).here = some e) :
    Alike engine (Store.onQuery q Query.next) ((Ledger.interface engine.rules).next q) s l := by
  have hq := h.queries q
  obtain ⟨-, hcursor, -⟩ := hq.cursor_of_here he
  have hpending : (Query.selecting (s.queries q, s.db)).pending =
      (l.queries q).behind.map rowOf := by
    simp only [PreparedStatement.pending, Query.selecting, hcursor]
  have hnext := Query.next_exec (q := s.queries q) h.faults
  rw [hpending] at hnext
  exact h.alike_turn hnext rfl (hq.delivered h.recordable_behind)

/-- An entry is erased, and the query moves on. -/
private theorem alike_erase (h : s.Keeps engine l) {e : Ledger.Entry}
    (he : (l.queries q).here = some e) (hnumber : e.number.toInt32.toInt64 = e.number) :
    Alike engine (Store.onQuery q Query.erase) ((Ledger.interface engine.rules).erase q) s l := by
  have hq := h.queries q
  obtain ⟨-, hcursor, hstatus⟩ := hq.cursor_of_here he
  have hwithin : (s.queries q).status ≠ .eor := by
    rw [hq.status, hstatus]
    decide
  obtain ⟨statement, hready, herase⟩ :=
    Query.erase_exec_row h.faults hq.deletes hwithin hcursor
  have hdelivered := hq.delivered (h.recordable_behind (q := q))
  have hkeeps : ({ (s.queries q).delivered ((l.queries q).behind.map rowOf) with
      deleteStatement := statement } : Query).Keeps
        ((l.queries q).standing (l.queries q).behind) :=
    ⟨hdelivered.status, hdelivered.bindings, hdelivered.cursor, hready, hdelivered.recordable,
      hdelivered.standing, hdelivered.noError⟩
  have hturn := h.turn (q := q) hkeeps
  refine ⟨.ok (), _, _, Store.onQuery_exec herase, Ledger.erase_exec_some he, h.engine, h.faults,
    ?_, fun e he => h.recordable e (List.mem_of_mem_filter he), h.deleting, h.inserting,
    h.removing, hturn.queries, h.nextQuery⟩
  change s.db.requests.filter _ = (l.entries.filter _).map rowOf
  rw [h.requests, List.filter_map]
  refine congrArg _ (List.filter_congr fun other _ => ?_)
  have hid : (rowOf e).id.toInt32.toInt64 = e.number := hnumber
  simp only [Function.comp_apply, hid]
  rfl

/-- The current request is read on both sides, or there is none. -/
private theorem alike_current (h : s.Keeps engine l)
    (hsupports : Query.Supports (l.queries q) .current) :
    Alike engine (Store.onQuery q Query.current) ((Ledger.interface engine.rules).current q)
      s l := by
  have hq := h.queries q
  have hsame : ({ s with queries := Function.update s.queries q (s.queries q) } : Store) = s := by
    rw [Function.update_eq_self]
  have hledger := @Ledger.current_exec _ engine.rules l q
  cases he : (l.queries q).here with
  | some e =>
    rw [he] at hledger
    obtain ⟨hresults, hcursor, hstatus⟩ := hq.cursor_of_here he
    have hrecordable := hq.recordable _ hresults e List.mem_cons_self
    have hposition : (s.queries q).selectStatement.cursor.position = some (rowOf e) := by
      rw [hcursor]
      rfl
    have hrequest : Query.request (s.queries q).selectStatement = e.request :=
      (request_eq_iff hrecordable.terminated hposition).mpr hrecordable.feature
    have hcurrent : Query.current.exec (s.queries q, s.db) =
        (.ok e.request, s.queries q, s.db) := by
      rw [Query.current, Fallible.exec_bind_ok (Fallible.exec_get _), hq.status, hstatus, hrequest]
      rfl
    refine ⟨.ok e.request, s, l, ?_, hledger, h⟩
    rw [Store.onQuery_exec hcurrent, hsame]
  | none =>
    rw [he] at hledger
    have hcurrent : Query.current.exec (s.queries q, s.db) =
        (.error .noCurrentResult, s.queries q, s.db) := by
      rw [Query.current, Fallible.exec_bind_ok (Fallible.exec_get _), hq.status]
      cases hstatus : (l.queries q).status with
      | armed | eor => rfl
      | hasMoreResults => exact absurd he (hsupports hstatus)
      | error => exact absurd hstatus hq.noError
    refine ⟨.error .noCurrentResult, s, l, ?_, hledger, h⟩
    rw [Store.onQuery_exec hcurrent, hsame]

/-- Past the results both sides refuse to erase. -/
private theorem alike_erase_eor (h : s.Keeps engine l) (hstatus : (l.queries q).status = .eor) :
    Alike engine (Store.onQuery q Query.erase) ((Ledger.interface engine.rules).erase q) s l := by
  have hq := h.queries q
  have herase : Query.erase.exec (s.queries q, s.db) =
      (.error (.runtimeError "Cannot delete request as query points beyond the result set."),
        s.queries q, s.db) := by
    rw [Query.erase_exec, if_pos (hq.status.trans hstatus)]
  refine ⟨_, s, l, ?_, Ledger.erase_exec_none (Query.Keeps.here_of_eor hstatus), h⟩
  rw [Store.onQuery_exec herase, Function.update_eq_self]

/-- What is returned for an operation does not tell the sides apart. -/
theorem alike_returning {α β : Type} {m : Action Store α} {n : Action Ledger α}
    (h : Alike engine m n s l) (f : α → β) :
    Alike engine (m >>= fun a => pure (f a)) (n >>= fun a => pure (f a)) s l := by
  obtain ⟨r, s', l', hm, hn, hkeeps⟩ := h
  cases r with
  | ok a => exact ⟨.ok (f a), s', l', Fallible.exec_bind_ok hm, Fallible.exec_bind_ok hn, hkeeps⟩
  | error e =>
    exact ⟨.error e, s', l', Fallible.exec_bind_error hm, Fallible.exec_bind_error hn, hkeeps⟩

/-- A parameter that is bound is a limit that is set. -/
private theorem bind_bindingsOf (c : Ledger.Criteria) :
    (∀ id, id ≠ "" → (Filter.applicationId id).bind (bindingsOf c) =
      bindingsOf { c with applicationId := some id }) ∧
    (∀ feature, (Filter.feature feature).bind (bindingsOf c) =
      bindingsOf { c with feature := some feature }) ∧
    (∀ first last, (Filter.interval first last).bind (bindingsOf c) =
      bindingsOf { c with interval := some (first, last) }) ∧
    (∀ answer, (Filter.answer answer).bind (bindingsOf c) =
      bindingsOf { c with answer := some answer }) := by
  refine ⟨fun id hid => ?_, fun feature => ?_, fun first last => ?_, fun answer => ?_⟩
  all_goals
    funext index
    match index with
    | 0 | 1 | 2 | 3 | 4 | 5 | _ + 6 => simp [Filter.bind, bindingsOf, Function.update, *]

/-- Every operation on a query comes out alike that the query supports. -/
theorem alike_onQuery (h : s.Keeps engine l) {operation : QueryOperation}
    (hsupports : Query.Supports (l.queries q) operation) :
    Alike engine (Store.interface.onQuery q operation)
      ((Ledger.interface engine.rules).onQuery q operation) s l := by
  have hq := h.queries q
  cases operation with
  | all =>
    have hall : Alike engine (onQuery q Query.all) ((Ledger.interface engine.rules).all q) s l :=
      h.alike_turn (Query.all_exec h.faults hq.errorCode) rfl hq.cleared
    exact alike_returning hall fun _ => Returned.nothing
  | forApplicationId id =>
    have hid : Filter.applicationId id ≠ .applicationId "" := by simpa using hsupports.1
    have hlimit := h.alike_limit _ hid hsupports.2
      fun c => (bind_bindingsOf c).1 id hsupports.1
    exact alike_returning hlimit fun _ => Returned.nothing
  | forFeature feature =>
    have hlimit := h.alike_limit (.feature feature) (by simp) hsupports
      fun c => (bind_bindingsOf c).2.1 feature
    exact alike_returning hlimit fun _ => Returned.nothing
  | forInterval first last =>
    have hlimit := h.alike_limit (.interval first last) (by simp) hsupports
      fun c => (bind_bindingsOf c).2.2.1 first last
    exact alike_returning hlimit fun _ => Returned.nothing
  | forAnswer answer =>
    have hlimit := h.alike_limit (.answer answer) (by simp) hsupports
      fun c => (bind_bindingsOf c).2.2.2 answer
    exact alike_returning hlimit fun _ => Returned.nothing
  | execute => exact alike_returning h.alike_execute fun _ => Returned.nothing
  | next =>
    obtain ⟨e, he⟩ := Option.ne_none_iff_exists'.mp hsupports
    exact alike_returning (h.alike_next he) fun _ => Returned.nothing
  | erase =>
    have herase : Alike engine (onQuery q Query.erase)
        ((Ledger.interface engine.rules).erase q) s l := by
      rcases hsupports with hstatus | ⟨e, he, hnumber⟩
      · exact h.alike_erase_eor hstatus
      · exact h.alike_erase he hnumber
    exact alike_returning herase fun _ => Returned.nothing
  | current => exact alike_returning (h.alike_current hsupports) Returned.request
  | status =>
    have hstatus : Alike engine (interface.status q)
        ((Ledger.interface engine.rules).status q) s l :=
      ⟨.ok (l.queries q).status, s, l, by rw [← hq.status]; rfl, rfl, h⟩
    exact alike_returning hstatus Returned.status

end Store.Keeps

/-! ### Runs -/

/-- Clients of the store have seen what clients of the ledger have, and it keeps the ledger. -/
structure Agree (engine : Engine) (c : Clients Store QueryId) (l : Clients Ledger QueryId) :
    Prop where
  state : c.state.Keeps engine l.state
  queries : c.queries = l.queries
  results : c.results = l.results

namespace Agree

variable {engine : Engine} {c : Clients Store QueryId} {l : Clients Ledger QueryId}

/-- An operation that comes out alike. -/
private theorem take (h : Agree engine c l) {m : Action Store Returned}
    {n : Action Ledger Returned} (hm : Alike engine m n c.state l.state) :
    Agree engine (c.take m) (l.take n) := by
  obtain ⟨r, s', l', hm, hn, hkeeps⟩ := hm
  rw [Clients.take_eq hm, Clients.take_eq hn]
  exact ⟨hkeeps, h.queries, by rw [h.results]⟩

/-- Every operation that is supported comes out alike. -/
theorem step (h : Agree engine c l) {operation : Operation} (hsupported : Supported l operation) :
    Option.Rel (Agree engine) (c.step Store.interface operation)
      (l.step (Ledger.interface engine.rules) operation) := by
  have hlive : ∀ n, c.live n = l.live n := fun n => by rw [Clients.live, Clients.live, h.queries]
  cases operation with
  | add request =>
    have hadd := Store.Keeps.alike_returning (h.state.alike_add hsupported)
      fun _ => Returned.nothing
    exact .some (h.take hadd)
  | removeApplication id =>
    have hremove := Store.Keeps.alike_returning (h.state.alike_removeApplication hsupported)
      fun _ => Returned.nothing
    exact .some (h.take hremove)
  | reset =>
    have hreset := Store.Keeps.alike_returning h.state.alike_reset fun _ => Returned.nothing
    exact .some (h.take hreset)
  | query =>
    obtain ⟨r, s', l', hc, hl, hkeeps⟩ := h.state.alike_query
    have hquery : Store.interface.query.exec c.state = (r, s') := hc
    rw [Clients.step, Clients.step, hquery, hl]
    cases r with
    | ok q => exact .some ⟨hkeeps, by simp only [Clients.create, h.queries],
        by simp only [Clients.create, h.results]⟩
    | error e => exact .some ⟨hkeeps, h.queries, by simp only [Clients.create, h.results]⟩
  | destroy n =>
    rw [Clients.step, Clients.step, hlive]
    cases hq : l.live n with
    | none => exact .none
    | some q => exact .some ⟨h.state.destroy, by rw [h.queries], by rw [h.results]⟩
  | onQuery n operation =>
    rw [Clients.step, Clients.step, hlive]
    cases hq : l.live n with
    | none => exact .none
    | some q => exact .some (h.take (h.state.alike_onQuery (hsupported q hq)))

end Agree

/-- Clients of an SQLite store that keeps a ledger see what clients of the ledger see, in every run
whose operations are all supported, and the store goes on keeping the ledger. -/
theorem Store.keeps_ledger_run {engine : Engine} {s : Store} {l : Ledger}
    (h : s.Keeps engine l) {operations : List Operation}
    (hsupported : Transition.Meets (Clients.step (Ledger.interface engine.rules)) Supported
      (Clients.start l) operations) :
    Option.Rel (Agree engine)
      (Transition.run (Clients.step Store.interface) (Clients.start s) operations)
      (Transition.run (Clients.step (Ledger.interface engine.rules)) (Clients.start l)
        operations) :=
  Transition.rel_run (fun _ _ _ hagree hsupported => hagree.step hsupported) ⟨h, rfl, rfl⟩
    hsupported

/-- Two answers for one application, of which a query erases the newer one. -/
def twoAnswers : List Operation :=
  [.add ⟨"app", ⟨1⟩, 5, .denied⟩, .add ⟨"app", ⟨1⟩, 9, .granted⟩, .query,
    .onQuery 0 (.forApplicationId "app"), .onQuery 0 .execute, .onQuery 0 .current,
    .onQuery 0 .erase, .onQuery 0 .current, .onQuery 0 .next, .onQuery 0 .status, .destroy 0]

/-- The clients of the store see them newest first. -/
theorem Store.keeps_ledger_run_twoAnswers : ∃ l,
    Transition.run (Clients.step (Ledger.interface Engine.stable.rules))
      (Clients.start Ledger.empty) twoAnswers = some l ∧
    l.results[5]? = some (.ok (.request ⟨"app", ⟨1⟩, 9, .granted⟩)) ∧
    Option.Rel (Agree Engine.stable)
      (Transition.run (Clients.step Store.interface)
        (Clients.start (Store.empty Engine.stable)) twoAnswers) (some l) := by
  have hsupported : Transition.Meets (Clients.step (Ledger.interface Engine.stable.rules))
      Supported (Clients.start Ledger.empty) twoAnswers := by decide
  exact ⟨_, rfl, by decide, Store.keeps_ledger_run (Store.keeps_empty Engine.stable) hsupported⟩

end Sqlite
end TrustStore
