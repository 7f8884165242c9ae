import TrustStore.Daemon.Settled
import TrustStore.Preseed.Configuration
import TrustStore.Sqlite.Unfailing

/-!
# Daemons on preseeded databases

What the executable that adds answers before anybody was asked comes to, once a daemon is started on
the database: of the answers for an application and a feature a newest one counts, and the user is
never prompted. The ids are compared as they are written, while the daemon strips the ids of its
requests of their versions.
-/

namespace TrustStore.Daemon.Preseeded

open TrustStore.Base
open TrustStore.Cache.World (Ready)
open TrustStore.Sqlite (Row)
open TrustStore.AppIdFormattingTrustAgent (format)
open TrustStore.Daemon.Decisions

/-- The requests for an application and a feature. -/
def seeds (requests : List Request) (id : String) (feature : Feature) : List Request :=
  requests.filter fun r => r.origin = id ∧ r.feature = feature

/-- A request with an application id, whose feature is stored as it is. -/
def Proper (r : Request) : Prop := r.origin ≠ "" ∧ Storable r.feature

instance (r : Request) : Decidable (Proper r) := inferInstanceAs (Decidable (_ ∧ _))

/-- Every row is that of a request, and every request has a row. -/
structure Hold (rows : List Row) (requests : List Request) : Prop where
  sound : ∀ row ∈ rows, ∃ r ∈ requests, row = Row.ofRequest row.id r
  complete : ∀ r ∈ requests, ∃ row ∈ rows, row = Row.ofRequest row.id r

/-! ### Adding the requests -/

private theorem add_exec {s : Sqlite.Store} (hs : Ready s) {r : Request} (hr : r.origin ≠ "") :
    ∃ t row, (Sqlite.Store.interface.add r).exec s = (.ok (), t) ∧ Ready t ∧
      t.db.engine = s.db.engine ∧ t.db.requests = s.db.requests ++ [row] ∧
      row = Row.ofRequest row.id r := by
  obtain ⟨statement, hcode, hadd⟩ := Sqlite.Store.add_exec_ne hs.faults hs.insert hr
  exact ⟨_, _, hadd, ⟨hs.faults, hcode⟩, rfl, rfl, rfl⟩

/-- The loop of `Preseed::main` appends a row for each of the requests. -/
private theorem forM_add_exec {requests : List Request} (hrequests : ∀ r ∈ requests, Proper r)
    {s : Sqlite.Store} (hs : Ready s) :
    ∃ t rows, (requests.forM Sqlite.Store.interface.add).exec s = (.ok ⟨⟩, t) ∧ Ready t ∧
      t.db.engine = s.db.engine ∧ t.db.requests = s.db.requests ++ rows ∧ Hold rows requests := by
  induction requests generalizing s with
  | nil => exact ⟨s, [], rfl, hs, rfl, (List.append_nil _).symm, by simp, by simp⟩
  | cons r requests ih =>
    obtain ⟨u, row, hadd, hu, hengine, hreq, hrow⟩ :=
      add_exec hs (hrequests r (List.mem_cons_self ..)).1
    obtain ⟨t, rows, hexec, ht, hengine', hreq', hrows⟩ :=
      ih (fun other hother => hrequests other (List.mem_cons_of_mem r hother)) hu
    refine ⟨t, row :: rows, (Fallible.exec_bind_ok hadd).trans hexec, ht, hengine'.trans hengine,
      ?_, ?_, ?_⟩
    · rw [hreq', hreq, List.append_assoc, List.singleton_append]
    · rw [List.forall_mem_cons]
      refine ⟨⟨r, List.mem_cons_self .., hrow⟩, fun row' hmem => ?_⟩
      obtain ⟨other, hother, heq⟩ := hrows.sound row' hmem
      exact ⟨other, List.mem_cons_of_mem r hother, heq⟩
    · rw [List.forall_mem_cons]
      refine ⟨⟨row, List.mem_cons_self .., hrow⟩, fun other hother => ?_⟩
      obtain ⟨row', hmem, heq⟩ := hrows.complete other hother
      exact ⟨row', List.mem_cons_of_mem row hmem, heq⟩

/-! ### What is decided then -/

/-- The rows that are found hold the requests for the application and the feature. -/
private theorem Hold.seeds {rows : List Row} {requests : List Request} (hrows : Hold rows requests)
    (hrequests : ∀ r ∈ requests, Proper r) (id : String) (feature : Feature) :
    Hold (rows.filter (Sqlite.selects (Sqlite.narrowed id feature)))
      (seeds requests id feature) := by
  have hfound : ∀ row, ∀ r ∈ requests, row = Row.ofRequest row.id r →
      (Sqlite.selects (Sqlite.narrowed id feature) row = true ↔
        r.origin = id ∧ r.feature = feature) := by
    intro row r hr hrow
    rw [hrow, selects_ofRequest (hrequests r hr).2, decide_eq_true_eq]
  constructor
  · intro row hmem
    obtain ⟨hmem, hselects⟩ := List.mem_filter.mp hmem
    obtain ⟨r, hr, hrow⟩ := hrows.sound row hmem
    exact ⟨r, List.mem_filter.mpr ⟨hr, by simpa using (hfound row r hr hrow).mp hselects⟩, hrow⟩
  · intro r hmem
    obtain ⟨hr, hsame⟩ := List.mem_filter.mp hmem
    obtain ⟨row, hmem, hrow⟩ := hrows.complete r hr
    exact ⟨row, List.mem_filter.mpr ⟨hmem, (hfound row r hr hrow).mpr (by simpa using hsame)⟩,
      hrow⟩

/-- The first of some rows, sorted by their age, has the answer of a newest of the requests that
they hold. -/
private theorem Hold.newest {rows : List Row} {requests : List Request} (hrows : Hold rows requests)
    (hne : requests ≠ []) (engine : Sqlite.Engine) :
    ∃ r ∈ requests, (∀ other ∈ requests, other.when ≤ r.when) ∧
      (engine.sort rows).head?.map (fun row => row.request.answer) = some r.answer := by
  have hperm := engine.sort_perm rows
  have hsorted := engine.sort_sorted rows
  cases hsort : engine.sort rows with
  | nil =>
    rw [hsort] at hperm
    obtain ⟨r, hr⟩ := List.exists_mem_of_ne_nil requests hne
    obtain ⟨row, hmem, -⟩ := hrows.complete r hr
    exact absurd (hperm.mem_iff.mpr hmem) List.not_mem_nil
  | cons row rest =>
    rw [hsort] at hperm hsorted
    obtain ⟨r, hr, hrow⟩ := hrows.sound row (hperm.mem_iff.mp (List.mem_cons_self ..))
    refine ⟨r, hr, fun other hother => ?_, ?_⟩
    · obtain ⟨row', hmem, hrow'⟩ := hrows.complete other hother
      rcases List.mem_cons.mp (hperm.mem_iff.mpr hmem) with rfl | hlater
      · have hwhen : Sqlite.Value.integer other.when = .integer r.when :=
          (congrArg Row.timestamp hrow').symm.trans (congrArg Row.timestamp hrow)
        rw [Sqlite.Value.integer.inj hwhen]
        exact Int64.le_refl _
      · have hle := List.rel_of_pairwise_cons hsorted hlater
        rw [hrow, hrow'] at hle
        simpa [Row.ofRequest, Sqlite.Value.le] using hle
    · rw [List.head?_cons, Option.map_some, hrow, Row.answer_ofRequest]

/-- Where nothing was decided before, a newest of the seeds decides, if there is one. -/
private theorem decisions_seeded {s t : Sqlite.Store} {rows : List Row} {requests : List Request}
    (hrequests : ∀ r ∈ requests, Proper r) (hrows : Hold rows requests)
    (hengine : t.db.engine = s.db.engine) (hreq : t.db.requests = s.db.requests ++ rows)
    (id : String) (feature : Feature) :
    (seeds requests id feature = [] → decisions t id feature = decisions s id feature) ∧
    (decisions s id feature = none → seeds requests id feature ≠ [] →
      ∃ r ∈ seeds requests id feature, (∀ other ∈ seeds requests id feature, other.when ≤ r.when) ∧
        decisions t id feature = some r.answer) := by
  have hfound := hrows.seeds hrequests id feature
  have hmatching : t.db.matching id feature = s.db.engine.sort
      (s.db.requests.filter (Sqlite.selects (Sqlite.narrowed id feature)) ++
        rows.filter (Sqlite.selects (Sqlite.narrowed id feature))) := by
    rw [Sqlite.Connection.matching, hengine, hreq, List.filter_append]
  constructor
  · intro hnil
    rw [hnil] at hfound
    have hnone : rows.filter (Sqlite.selects (Sqlite.narrowed id feature)) = [] := by
      apply List.eq_nil_iff_forall_not_mem.mpr
      intro row hmem
      obtain ⟨r, hr, -⟩ := hfound.sound row hmem
      exact List.not_mem_nil hr
    rw [decisions, hmatching, hnone, List.append_nil]
    rfl
  · intro hnone hne
    have hnil : s.db.requests.filter (Sqlite.selects (Sqlite.narrowed id feature)) = [] := by
      rw [decisions, Option.map_eq_none_iff, List.head?_eq_none_iff] at hnone
      exact (hnone ▸ s.db.engine.sort_perm _ : List.Perm [] _).nil_eq.symm
    obtain ⟨r, hr, hnewest, hanswer⟩ := hfound.newest hne s.db.engine
    refine ⟨r, hr, hnewest, ?_⟩
    rw [decisions, hmatching, hnil, List.nil_append]
    exact hanswer

/-- An executable on a machine where stores can be created, with a clock. -/
def environment : Preseed.Environment Sqlite.Store Sqlite.QueryId where
  createDefaultStore _ := .ok Sqlite.Store.interface
  now n := Int64.ofNat n

/-- Two answers for an application, of which the second revokes the first. -/
def overruled : Preseed.VariablesMap :=
  ⟨"camera", ["org.app_app 1 granted", "org.app_app 1 denied"], List.cons_ne_nil _ _⟩

end TrustStore.Daemon.Preseeded
