import TrustStore.Sqlite.Lookup

/-!
# Which requests come back

A request that `add` has written is found again, limited to its application and feature or
among all requests, exactly if its feature survives the narrowing to 32 bits: `add` writes a
feature with `bind_int`, `Query::for_feature` compares it with `bind_int64`, and
`Query::current` reads it with `column_int`.
-/

namespace TrustStore.Sqlite.Store

open TrustStore.Base

/-- Limit a new query to an application and a feature, execute it, and take its result. -/
def found (id : String) (feature : Feature) : Action Store (Option Request) := do
  let q ← interface.query
  interface.lookup q id feature

/-- Move a query on, a number of times. -/
def skip (q : QueryId) : Nat → Action Store Unit
  | 0 => pure ()
  | n + 1 => do
    interface.next q
    skip q n

/-- The request that an unlimited query stands on after some of its results. -/
def enumerated (n : Nat) : Action Store (Option Request) := do
  let q ← interface.query
  interface.execute q
  skip q n
  if (← interface.status q) = .hasMoreResults then
    return some (← interface.current q)
  return none

/-- The request is the result for its application and its feature, no other feature of the
application has a result, and an unlimited query comes upon the request. -/
structure RoundTrip (s : Store) (request : Request) : Prop where
  found : ∀ feature, ((found request.origin feature).exec s).1 =
    .ok (if feature = request.feature then some request else none)
  enumerated : ∃ n, ((enumerated n).exec s).1 = .ok (some request)

/-! ### Limited queries -/

/-- Without failures, the first of the matching rows is found. -/
theorem found_exec {s : Store} (hf : s.db.faults = []) {id : String} (hid : id ≠ "")
    (feature : Feature) :
    ((found id feature).exec s).1 = .ok ((s.db.matching id feature).head?.map Row.request) := by
  rcases s.query_cases with ⟨q, t, h, hreads, hq⟩ | ⟨e, t, h, _, hfault⟩
  · have hmatching : t.db.matching id feature = s.db.matching id feature := by
      rw [Connection.matching, hreads.requests, hreads.engine]
      rfl
    rw [found, Fallible.exec_bind_ok h]
    rcases t.lookup_cases hq hid feature with ⟨r, h, _⟩ | ⟨e, r, h, _, hfault⟩
    · rw [h, hmatching]
    · exact absurd (hreads.faults hf) hfault
  · exact absurd hf hfault

/-- A row of its application's own is all there is to match. -/
theorem matching_of_only {db : Connection} {rows : List Row} {row : Row} {id : String}
    (hrequests : db.requests = rows ++ [row])
    (hothers : ∀ r ∈ rows, r.applicationId ≠ .text id) (feature : Feature) :
    db.matching id feature = if selects (narrowed id feature) row then [row] else [] := by
  have hfilter : rows.filter (selects (narrowed id feature)) = [] := by
    rw [List.filter_eq_nil_iff]
    intro r hr
    rw [selects_narrowed, decide_eq_true_eq]
    exact fun h => hothers r hr h.1
  have hsort := db.engine.sort_perm (db.requests.filter (selects (narrowed id feature)))
  rw [Connection.matching]
  rw [hrequests, List.filter_append, hfilter, List.nil_append, List.filter_singleton] at hsort ⊢
  split
  next h =>
    simp only [h, cond_true] at hsort ⊢
    exact List.perm_singleton.mp hsort
  next h =>
    simp only [h, cond_false] at hsort ⊢
    exact List.perm_nil.mp hsort

/-! ### Unlimited queries -/

/-- An unlimited query selects every row without a `NULL`. -/
theorem selects_none (row : Row) :
    selects Bindings.none row = decide (row.applicationId ≠ .null ∧ row.feature ≠ .null ∧
      row.timestamp ≠ .null ∧ row.answer ≠ .null) := by
  simp only [selects, Bindings.none, Value.equals_ifNull_null, Value.between_ifNull_null]
  simp [Bool.and_assoc]

private theorem spend_eq_self {db : Connection} (hf : db.faults = []) : db.spend = db := by
  cases db
  cases hf
  rfl

private theorem execute_fresh {db : Connection} (hf : db.faults = []) :
    Query.execute.exec (Query.fresh, db) = (.ok (), Query.fresh.delivered
      (db.engine.sort (db.requests.filter (selects Bindings.none))), db) := by
  have hfault : db.fault = none := Connection.fault_eq_none hf
  rcases Query.execute_cases (Query.fresh, db) with ⟨_, h⟩ | ⟨hfails, _⟩
  · rw [spend_eq_self hf, spend_eq_self hf] at h
    exact h
  · exfalso
    rw [spend_eq_self hf] at hfails
    rcases hfails with (h | h) | h
    · exact h hfault
    · exact h rfl
    · exact h hfault

private theorem next_delivered (query : Query) {db : Connection} (hf : db.faults = [])
    (row : Row) (rest : List Row) :
    Query.next.exec (query.delivered (row :: rest), db) = (.ok (), query.delivered rest, db) := by
  rcases Query.next_cases (query.delivered (row :: rest), db) with ⟨_, h⟩ | ⟨code, h, _⟩
  · rw [spend_eq_self hf] at h
    rw [h]
    cases rest <;> rfl
  · simp [Connection.fault_eq_none hf] at h

private theorem skip_exec {s : Store} (hf : s.db.faults = []) {q : QueryId} (n : Nat) :
    ∀ {query : Query} {rows : List Row}, s.queries q = query.delivered rows → n ≤ rows.length →
      ∃ t, (skip q n).exec s = (.ok (), t) ∧ t.queries q = query.delivered (rows.drop n) := by
  induction n generalizing s with
  | zero =>
    intro query rows hq _
    exact ⟨s, rfl, hq⟩
  | succ n ih =>
    intro query rows hq hn
    cases rows with
    | nil => simp at hn
    | cons row rest =>
      have hnext : Query.next.exec (s.queries q, s.db) =
          (.ok (), query.delivered rest, s.db) := by
        rw [hq]
        exact next_delivered query hf row rest
      have hstep : (interface.next q).exec s =
          (.ok (), { s with queries := Function.update s.queries q (query.delivered rest) }) :=
        onQuery_exec hnext
      obtain ⟨t, hskip, ht⟩ := ih
        (s := { s with queries := Function.update s.queries q (query.delivered rest) }) hf
        (Function.update_self ..) (Nat.le_of_succ_le_succ hn)
      refine ⟨t, ?_, ht⟩
      rw [skip, Fallible.exec_bind_ok hstep, hskip]

/-- Without failures, an unlimited query comes upon every row without a `NULL`. -/
theorem exists_enumerated {s : Store} (hf : s.db.faults = []) {row : Row}
    (hrow : row ∈ s.db.requests) (hselects : selects Bindings.none row) :
    ∃ n, ((enumerated n).exec s).1 = .ok (some row.request) := by
  rcases s.query_cases with ⟨q, t, h, hreads, hq⟩ | ⟨e, t, h, _, hfault⟩
  · have hft := hreads.faults hf
    let rows := t.db.engine.sort (t.db.requests.filter (selects Bindings.none))
    have hmem : row ∈ rows := by
      rw [(t.db.engine.sort_perm _).mem_iff, List.mem_filter, hreads.requests]
      exact ⟨hrow, hselects⟩
    obtain ⟨before, after, hrows⟩ := List.append_of_mem hmem
    have hexecute : (interface.execute q).exec t = (.ok (), { t with
        queries := Function.update t.queries q (Query.fresh.delivered rows) }) := by
      refine onQuery_exec ?_
      rw [hq]
      exact execute_fresh hft
    obtain ⟨r, hskip, hr⟩ := skip_exec
      (s := { t with queries := Function.update t.queries q (Query.fresh.delivered rows) })
      hft before.length (Function.update_self q _ _) (by simp [hrows])
    rw [hrows, List.drop_left] at hr
    refine ⟨before.length, ?_⟩
    rw [enumerated, Fallible.exec_bind_ok h, Fallible.exec_bind_ok hexecute,
      Fallible.exec_bind_ok hskip, Fallible.exec_bind_ok (status_exec r q), hr]
    have hmore : (Query.fresh.delivered (row :: after)).status = .hasMoreResults := rfl
    rw [if_pos hmore, Fallible.exec_bind_ok (current_exec hr)]
    rfl
  · exact absurd hf hfault

/-! ### The round trip -/

private theorem request_added_iff {id : Int64} {request : Request}
    (hnul : '\x00' ∉ request.origin.toList) :
    (Row.ofRequest id request).request = request ↔ Storable request.feature :=
  request_eq_iff hnul rfl

private theorem selects_added (id : Int64) (request : Request) (feature : Feature) :
    selects (narrowed request.origin feature) (Row.ofRequest id request) =
      decide (featureColumn request.feature = feature.value.toInt64) := by
  simp [selects_narrowed, Row.ofRequest]

/-- What `add` has written comes back exactly if its feature is storable: below 2^31, or
within 2^31 of the end of the 64-bit range. -/
theorem roundTrip_iff {s t : Store} {request : Request} (hid : request.origin ≠ "")
    (hnul : '\x00' ∉ request.origin.toList)
    (hothers : ∀ row ∈ s.db.requests, row.applicationId ≠ .text request.origin)
    (hfaults : s.db.faults = []) (hadd : (interface.add request).exec s = (.ok (), t)) :
    RoundTrip t request ↔ Storable request.feature := by
  obtain ⟨hf, id, hrequests⟩ : t.db.faults = [] ∧
      ∃ id, t.db.requests = s.db.requests ++ [Row.ofRequest id request] := by
    rcases s.add_cases request with ⟨_, r, h, honly, _, hreq⟩ | ⟨e, r, h, _⟩
    · obtain rfl : r = t := congrArg Prod.snd (h.symm.trans hadd)
      rw [addedRow_eq s hid] at hreq
      exact ⟨honly.faults hfaults, _, hreq⟩
    · exact absurd (congrArg Prod.fst (h.symm.trans hadd)) (by simp)
  have hfound : ∀ feature, ((found request.origin feature).exec t).1 =
      .ok (if featureColumn request.feature = feature.value.toInt64 then
        some (Row.ofRequest id request).request else none) := by
    intro feature
    rw [found_exec hf hid, matching_of_only hrequests hothers, selects_added]
    split
    next h => simp [of_decide_eq_true h]
    next h => simp [of_decide_eq_false (eq_false_of_ne_true h)]
  constructor
  · intro h
    have hown := (hfound request.feature).symm.trans (h.found request.feature)
    rw [if_pos rfl] at hown
    rw [← featureColumn_eq_iff]
    by_contra hne
    rw [if_neg hne] at hown
    simp at hown
  · intro hs
    have hrow : (Row.ofRequest id request).request = request := (request_added_iff hnul).mpr hs
    constructor
    · intro feature
      have hiff : featureColumn request.feature = feature.value.toInt64 ↔
          feature = request.feature := by
        rw [(featureColumn_eq_iff request.feature).mpr hs]
        exact ⟨fun h => (feature_inj h).symm, fun h => h ▸ rfl⟩
      rw [hfound, hrow]
      simp only [hiff]
    · have hmem : Row.ofRequest id request ∈ t.db.requests := by
        rw [hrequests]
        exact List.mem_append_right _ (List.mem_singleton.mpr rfl)
      obtain ⟨n, hn⟩ := exists_enumerated hf hmem (by simp [selects_none, Row.ofRequest])
      rw [hrow] at hn
      exact ⟨n, hn⟩

/-- The grant of a storable feature comes back. -/
theorem roundTrip_iff_storable :
    ∃ t, (interface.add ⟨"app", ⟨7⟩, 5, .granted⟩).exec (empty Engine.stable) = (.ok (), t) ∧
      (RoundTrip t ⟨"app", ⟨7⟩, 5, .granted⟩ ↔ Storable ⟨7⟩) := by
  have hothers : ∀ row ∈ (empty Engine.stable).db.requests, row.applicationId ≠ .text "app" := by
    simp [empty, onConnection]
  exact ⟨_, rfl, roundTrip_iff (by decide) (by decide) hothers rfl rfl⟩

/-- The grant of the feature 2^32 + 7 does not: it answers for the feature 7. -/
theorem not_roundTrip_wide :
    ∃ t, (interface.add ⟨"app", ⟨4294967303⟩, 5, .granted⟩).exec (empty Engine.stable) =
        (.ok (), t) ∧ ¬RoundTrip t ⟨"app", ⟨4294967303⟩, 5, .granted⟩ ∧
      ((found "app" ⟨7⟩).exec t).1 = .ok (some ⟨"app", ⟨7⟩, 5, .granted⟩) := by
  refine ⟨_, rfl, ?_, by decide⟩
  intro h
  have hown := h.found ⟨4294967303⟩
  exact absurd hown (by decide)

end TrustStore.Sqlite.Store
