import TrustStore.Cache.World

/-!
# Isolation between applications

Two sequences of calls to a `CachedAgent` on an SQLite store that agree on the calls of one
application give that application the same answers and the same prompts. This needs every
call to carry an application id: `PreparedStatement::bind_text` leaves out the empty text, so
a call without one adds its answer under the id that was bound before, or halts the insert
statement.
-/

namespace TrustStore.Cache.Isolation

open TrustStore.Base
open TrustStore.Sqlite (Row selects narrowed)
open World

/-- A call of which no record is kept. -/
abbrev Call := Cache.Call Unit

/-- The application that a call is about. -/
def app (call : Call) : String := call.params.application.id

/-- What distinguishes the calls of one application: the feature, how a prompt would end, and
the time. -/
def essence (call : Call) : Feature × Except Exception Answer × Timestamp :=
  (call.params.feature, call.prompt, call.now)

/-- The outcome of a call, and whether the user was prompted. -/
def observe (call : Call) (w : World Unit) : Except Exception Answer × Bool :=
  let (result, after) := (authenticate call).exec w
  (result, decide (after.prompts.length ≠ w.prompts.length))

/-- What the calls of one application come to see in a sequence of calls. -/
def outcomes (id : String) : World Unit → List Call → List (Except Exception Answer × Bool)
  | _, [] => []
  | w, call :: calls =>
    let rest := outcomes id ((authenticate call).exec w).2 calls
    if app call = id then observe call w :: rest else rest

/-- The calls of one application in a sequence, as far as they matter. -/
def own (id : String) (calls : List Call) : List (Feature × Except Exception Answer × Timestamp) :=
  (calls.filter fun call => app call = id).map essence

/-- An empty store, with nobody prompted yet. -/
def initial (engine : Sqlite.Engine) : World Unit := ⟨Sqlite.Store.empty engine, []⟩

/-- Whatever other applications do, the calls of an application see the same in any two
sequences in which they are the same, as long as all applications are in `ids`. -/
def Isolated (ids : Set String) : Prop :=
  ∀ (engine : Sqlite.Engine) (id : String) (xs ys : List Call),
    (∀ call ∈ xs, app call ∈ ids) → (∀ call ∈ ys, app call ∈ ids) → own id xs = own id ys →
      outcomes id (initial engine) xs = outcomes id (initial engine) ys

/-! ### The rows of one application -/

/-- The contents of the rows of an application, in the order of the scan. -/
def contents (id : String) (w : World Unit) : List (Sqlite.Value × Sqlite.Value × Sqlite.Value ×
    Sqlite.Value) :=
  (w.store.db.requests.filter fun row => row.applicationId = .text id).map Row.content

/-- Two worlds that an application cannot tell apart. -/
structure Agree (id : String) (w v : World Unit) : Prop where
  engine : w.store.db.engine = v.store.db.engine
  left : Ready w.store
  right : Ready v.store
  contents : contents id w = contents id v

/-- Filters that look at the contents only keep contents equal. -/
private theorem filter_content {p : Row → Bool}
    (hp : ∀ row row' : Row, row.content = row'.content → p row = p row') {rows rows' : List Row}
    (h : rows.map Row.content = rows'.map Row.content) :
    (rows.filter p).map Row.content = (rows'.filter p).map Row.content := by
  induction rows generalizing rows' with
  | nil =>
    cases rows' with
    | nil => rfl
    | cons row' rows' => simp at h
  | cons row rows ih =>
    cases rows' with
    | nil => simp at h
    | cons row' rows' =>
      simp only [List.map_cons, List.cons.injEq] at h
      simp only [List.filter_cons, hp row row' h.1]
      split
      · simp only [List.map_cons, h.1, ih h.2]
      · exact ih h.2

private theorem selects_content {id : String} {feature : Feature} {row row' : Row}
    (h : row.content = row'.content) :
    selects (narrowed id feature) row = selects (narrowed id feature) row' := by
  simp only [Row.content, Prod.mk.injEq] at h
  simp only [Sqlite.selects_narrowed, h]

private theorem request_content {row row' : Row} (h : row.content = row'.content) :
    row.request = row'.request := by
  simp only [Row.content, Prod.mk.injEq] at h
  simp only [Row.request, Sqlite.Query.request, Sqlite.Statement.columnText,
    Sqlite.Statement.columnInt, Sqlite.Statement.columnInt64, Sqlite.Statement.column,
    Sqlite.Cursor.position, Row.column, h]

/-- Worlds that agree on an application have the same matching rows for it. -/
private theorem matching_content {id : String} {w v : World Unit} (h : Agree id w v)
    (feature : Feature) :
    (w.store.db.matching id feature).map Row.content =
      (v.store.db.matching id feature).map Row.content := by
  have hown : ∀ rows : List Row, rows.filter (selects (narrowed id feature)) =
      (rows.filter fun row => row.applicationId = .text id).filter
        (selects (narrowed id feature)) := by
    intro rows
    rw [List.filter_filter]
    congr 1
    funext row
    rw [Sqlite.selects_narrowed]
    by_cases hrow : row.applicationId = .text id <;> simp [hrow]
  rw [Sqlite.Connection.matching, Sqlite.Connection.matching, h.engine]
  apply v.store.db.engine.sort_content
  rw [hown, hown v.store.db.requests]
  exact filter_content (fun _ _ => selects_content) h.contents

/-! ### One call -/

private theorem agree_symm {id : String} {w v : World Unit} (h : Agree id w v) : Agree id v w :=
  ⟨h.engine.symm, h.right, h.left, h.contents.symm⟩

/-- A call adds rows of its own application only. -/
private theorem authenticate_adds {call : Call} {w : World Unit} (hid : app call ≠ "")
    (hw : Ready w.store) :
    ∃ rows, (∀ row ∈ rows, row.applicationId = .text (app call)) ∧
      ((authenticate call).exec w).2.store.db.requests = w.store.db.requests ++ rows ∧
      ((authenticate call).exec w).2.store.db.engine = w.store.db.engine ∧
      Ready ((authenticate call).exec w).2.store := by
  cases hrows : call.matching w.store with
  | cons row rest =>
    obtain ⟨store, h, hreads, hready⟩ := authenticate_hit hid hw hrows
    refine ⟨[], by simp, ?_⟩
    rw [h, List.append_nil]
    exact ⟨hreads.requests, hreads.engine, hready⟩
  | nil =>
    obtain ⟨store, rowid, h, hreq, heng, hready⟩ := authenticate_miss hid hw hrows
    refine ⟨added call rowid, ?_, ?_⟩
    · intro row hrow
      rw [added] at hrow
      split at hrow
      · rw [List.mem_singleton.mp hrow]
        rfl
      · simp at hrow
    · rw [h]
      exact ⟨hreq, heng, hready⟩

/-- The calls of other applications change nothing for an application. -/
private theorem agree_other {id : String} {call : Call} {w v : World Unit} (hid : app call ≠ "")
    (hother : app call ≠ id) (h : Agree id w v) :
    Agree id ((authenticate call).exec w).2 v := by
  obtain ⟨rows, hrows, hreq, heng, hready⟩ := authenticate_adds hid h.left
  refine ⟨heng.trans h.engine, hready, h.right, ?_⟩
  have hnone : rows.filter (fun row => row.applicationId = .text id) = [] := by
    rw [List.filter_eq_nil_iff]
    intro row hrow
    simp [hrows row hrow, hother]
  rw [contents, hreq, List.filter_append, hnone, List.append_nil]
  exact h.contents

private theorem added_content {c d : Call} (happ : app c = app d) (hessence : essence c = essence d)
    (i j : Int64) : (added c i).map Row.content = (added d j).map Row.content := by
  simp only [essence, Prod.mk.injEq] at hessence
  simp only [app] at happ
  rw [added, added, hessence.2.1]
  split
  · simp [Row.content, Row.ofRequest, Call.request, happ, hessence]
  · rfl

/-- The same call has the same outcome in worlds that its application cannot tell apart, and
leaves worlds that it cannot tell apart. -/
private theorem agree_own {id : String} {c d : Call} {w v : World Unit} (hid : id ≠ "")
    (hc : app c = id) (hd : app d = id) (hessence : essence c = essence d) (h : Agree id w v) :
    observe c w = observe d v ∧
      Agree id ((authenticate c).exec w).2 ((authenticate d).exec v).2 := by
  have hidc : app c ≠ "" := hc ▸ hid
  have hidd : app d ≠ "" := hd ▸ hid
  have hfeature : c.params.feature = d.params.feature := congrArg Prod.fst hessence
  have hprompt : c.prompt = d.prompt := congrArg (fun e => e.2.1) hessence
  have hmatching : (c.matching w.store).map Row.content =
      (d.matching v.store).map Row.content := by
    have := matching_content h c.params.feature
    simpa only [Call.matching, ← hfeature, ← hc, show c.params.application.id = app c from rfl,
      show d.params.application.id = app c from hd.trans hc.symm] using this
  have hcontents : ∀ {rows rows' : List Row}, rows.map Row.content = rows'.map Row.content →
      (rows.filter fun row => row.applicationId = .text id).map Row.content =
        (rows'.filter fun row => row.applicationId = .text id).map Row.content := by
    intro rows rows'
    apply filter_content
    intro row row' hrow
    simp only [Row.content, Prod.mk.injEq] at hrow
    rw [hrow.1]
  cases hw : c.matching w.store with
  | cons row rest =>
    cases hv : d.matching v.store with
    | nil => simp [hw, hv] at hmatching
    | cons row' rest' =>
      simp only [hw, hv, List.map_cons, List.cons.injEq] at hmatching
      obtain ⟨s, hs, hsreads, hsready⟩ := authenticate_hit hidc h.left hw
      obtain ⟨t, ht, htreads, htready⟩ := authenticate_hit hidd h.right hv
      rw [observe, observe, hs, ht]
      refine ⟨by simp [request_content hmatching.1], ?_, hsready, htready, ?_⟩
      · exact (hsreads.engine.trans h.engine).trans htreads.engine.symm
      · rw [contents, contents, hsreads.requests, htreads.requests]
        exact h.contents
  | nil =>
    cases hv : d.matching v.store with
    | cons row' rest' => simp [hw, hv] at hmatching
    | nil =>
      obtain ⟨s, i, hs, hsreq, hseng, hsready⟩ := authenticate_miss hidc h.left hw
      obtain ⟨t, j, ht, htreq, hteng, htready⟩ := authenticate_miss hidd h.right hv
      rw [observe, observe, hs, ht]
      refine ⟨by simp [hprompt], (hseng.trans h.engine).trans hteng.symm, hsready, htready, ?_⟩
      simp only [contents, hsreq, htreq, List.filter_append, List.map_append]
      congr 1
      · exact h.contents
      · exact hcontents (added_content (hc.trans hd.symm) hessence i j)

/-! ### Sequences of calls -/

private theorem outcomes_of_own_nil {id : String} {calls : List Call} (h : own id calls = []) :
    ∀ w, outcomes id w calls = [] := by
  induction calls with
  | nil => exact fun _ => rfl
  | cons call calls ih =>
    have hne : app call ≠ id := by
      intro happ
      simp [own, happ] at h
    intro w
    rw [outcomes, if_neg hne]
    exact ih (by simpa [own, hne] using h) _

private theorem outcomes_eq {id : String} {xs ys : List Call} {w v : World Unit}
    (h : Agree id w v) (hxs : ∀ call ∈ xs, app call ≠ "") (hys : ∀ call ∈ ys, app call ≠ "")
    (hown : own id xs = own id ys) : outcomes id w xs = outcomes id v ys := by
  induction xs generalizing w v ys with
  | nil => exact (outcomes_of_own_nil hown.symm v).symm
  | cons c xs ih =>
    have hxs' : ∀ call ∈ xs, app call ≠ "" := fun call hc => hxs call (List.mem_cons_of_mem c hc)
    by_cases hc : app c = id
    · induction ys generalizing v with
      | nil => simp [own, hc] at hown
      | cons d ys ihy =>
        have hys' : ∀ call ∈ ys, app call ≠ "" :=
          fun call hd => hys call (List.mem_cons_of_mem d hd)
        by_cases hd : app d = id
        · obtain ⟨hessence, hrest⟩ : essence c = essence d ∧ own id xs = own id ys := by
            simpa [own, hc, hd] using hown
          obtain ⟨hobserve, hagree⟩ :=
            agree_own (hc ▸ hxs c List.mem_cons_self) hc hd hessence h
          simp only [outcomes, if_pos hc, if_pos hd, hobserve]
          rw [ih hagree hxs' hys' hrest]
        · have hagree := agree_symm (agree_other (hys d List.mem_cons_self) hd (agree_symm h))
          rw [ihy hagree hys' (by simpa [own, hd] using hown)]
          simp only [outcomes, if_neg hd]
    · have hagree := agree_other (hxs c List.mem_cons_self) hc h
      simp only [outcomes, if_neg hc]
      exact ih hagree hxs' hys (by simpa [own, hc] using hown)

private theorem isolated_of_notMem {ids : Set String} (hids : "" ∉ ids) : Isolated ids := by
  intro engine id xs ys hxs hys hown
  refine outcomes_eq ?_ (fun call hc happ => hids (happ ▸ hxs call hc))
    (fun call hc happ => hids (happ ▸ hys call hc)) hown
  exact ⟨rfl, ⟨rfl, rfl⟩, ⟨rfl, rfl⟩, rfl⟩

/-- Calls of one application with the same essence do the same. -/
private theorem authenticate_congr {c d : Call} (happ : app c = app d)
    (hessence : essence c = essence d) : authenticate c = authenticate d := by
  obtain ⟨⟨⟨_, _, _⟩, _, _⟩, _, _, _⟩ := c
  obtain ⟨⟨⟨_, _, _⟩, _, _⟩, _, _, _⟩ := d
  simp only [app, essence, Prod.mk.injEq] at happ hessence
  obtain ⟨rfl, rfl, rfl⟩ := hessence
  cases happ
  rfl

private theorem outcomes_congr {id : String} {xs ys : List Call} (hxs : ∀ call ∈ xs, app call = id)
    (hys : ∀ call ∈ ys, app call = id) (h : xs.map essence = ys.map essence) (w : World Unit) :
    outcomes id w xs = outcomes id w ys := by
  induction xs generalizing ys w with
  | nil =>
    cases ys with
    | nil => rfl
    | cons d ys => simp at h
  | cons c xs ih =>
    cases ys with
    | nil => simp at h
    | cons d ys =>
      simp only [List.map_cons, List.cons.injEq] at h
      have hc := hxs c List.mem_cons_self
      have hd := hys d List.mem_cons_self
      have hsame := authenticate_congr (hc.trans hd.symm) h.1
      have hobserve : observe c w = observe d w := by
        rw [observe, observe, hsame]
      simp only [outcomes, if_pos hc, if_pos hd, hobserve, hsame]
      rw [ih (fun call hx => hxs call (List.mem_cons_of_mem c hx))
        (fun call hy => hys call (List.mem_cons_of_mem d hy)) h.2]

private theorem isolated_of_subset {ids : Set String} (hids : ids ⊆ {""}) : Isolated ids := by
  intro engine id xs ys hxs hys hown
  have hxs' : ∀ call ∈ xs, app call = "" := fun call hc => hids (hxs call hc)
  have hys' : ∀ call ∈ ys, app call = "" := fun call hc => hids (hys call hc)
  by_cases hid : id = ""
  · subst hid
    have hall : ∀ {calls : List Call}, (∀ call ∈ calls, app call = "") →
        own "" calls = calls.map essence := by
      intro calls hcalls
      rw [own, List.filter_eq_self.mpr fun call hc => by simp [hcalls call hc]]
    rw [hall hxs', hall hys'] at hown
    exact outcomes_congr hxs' hys' hown _
  · have hnone : ∀ {calls : List Call}, (∀ call ∈ calls, app call = "") → own id calls = [] := by
      intro calls hcalls
      rw [own, List.map_eq_nil_iff, List.filter_eq_nil_iff]
      intro call hc
      simp [hcalls call hc, Ne.symm hid]
    rw [outcomes_of_own_nil (hnone hxs'), outcomes_of_own_nil (hnone hys')]

/-! ### What a call without an application id does -/

/-- A call whose prompt ends with a grant of the feature 1. -/
def grant (id : String) (feature : UInt64) : Call where
  params := ⟨⟨⟨1000⟩, ⟨42⟩, id⟩, ⟨feature⟩, ""⟩
  prompt := .ok .granted
  entry := fun _ => ()
  now := 5

/-- The answer to a first call without an application id cannot be added, and halts the insert
statement. -/
private theorem halted_of_empty :
    let store := ((authenticate (grant "" 1)).exec (initial Sqlite.Engine.stable)).2.store
    store.db.requests = [] ∧ store.insertStatement.cursor.errorCode ≠ none := by
  decide

/-- No answer can be added as long as the insert statement is halted. -/
private theorem not_ok_of_halted {call : Call} {w : World Unit} (hid : app call ≠ "")
    (hnil : w.store.db.requests = [])
    (hhalted : w.store.insertStatement.cursor.errorCode ≠ none) (answer : Answer) :
    (observe call w).1 ≠ .ok answer := by
  have hmatching : call.matching w.store = [] := by
    rw [List.eq_nil_iff_forall_not_mem]
    intro row hrow
    have hmem := (Sqlite.mem_matching.mp hrow).1
    simp [hnil] at hmem
  have hend := authenticate_ending call w hid
  rw [observe]
  generalize (authenticate call).exec w = outcome at hend
  cases hend with
  | cached row store hrow => simp [hmatching] at hrow
  | answered _ _ _ _ _ _ _ hreset => exact absurd hreset hhalted
  | unanswered => simp
  | failed => simp

private theorem not_isolated {ids : Set String} (hempty : "" ∈ ids) {id : String} (hid : id ∈ ids)
    (hne : id ≠ "") : ¬Isolated ids := by
  intro h
  have hsame := h Sqlite.Engine.stable id [grant "" 1, grant id 1] [grant id 1]
    (by simp [grant, app, hempty, hid]) (by simp [grant, app, hid])
    (by simp [own, grant, app, Ne.symm hne])
  have hother : app (grant "" 1) ≠ id := Ne.symm hne
  have hown : app (grant id 1) = id := rfl
  simp only [outcomes, if_neg hother, if_pos hown, List.cons.injEq, and_true] at hsame
  have happ : app (grant id 1) ≠ "" := hne
  have hmiss : (grant id 1).matching (initial Sqlite.Engine.stable).store = [] := rfl
  obtain ⟨store, rowid, halone, _⟩ := authenticate_miss happ ⟨rfl, rfl⟩ hmiss
  have hgranted : (observe (grant id 1) (initial Sqlite.Engine.stable)).1 = .ok .granted := by
    rw [observe, halone]
    rfl
  rw [← hsame] at hgranted
  exact not_ok_of_halted happ halted_of_empty.1 halted_of_empty.2 .granted hgranted

/-- The applications of a set are isolated from each other exactly if none of them is without
an application id, or none has one. -/
theorem isolated_iff (ids : Set String) : Isolated ids ↔ "" ∉ ids ∨ ids ⊆ {""} := by
  constructor
  · intro h
    by_contra hnot
    obtain ⟨hempty, hsub⟩ := not_or.mp hnot
    obtain ⟨id, hid, hne⟩ := Set.not_subset.mp hsub
    exact not_isolated (not_not.mp hempty) hid hne h
  · rintro (h | h)
    · exact isolated_of_notMem h
    · exact isolated_of_subset h

/-- A grant to a caller without an application id is stored as one of the application that was
added last, which is then granted the feature without a prompt. -/
theorem not_isolated_univ : ¬Isolated Set.univ := by
  intro h
  have hsame := h Sqlite.Engine.stable "app" [grant "app" 1, grant "" 2, grant "app" 2]
    [grant "app" 1, grant "app" 2] (by simp) (by simp) (by decide)
  exact absurd hsame (by decide)

end TrustStore.Cache.Isolation
