import TrustStore.Agents.Steps
import TrustStore.Base.Transition
import TrustStore.Sqlite.Lookup

/-!
# Two calls at the same time

Two callers of the same caching function ask for the same application and feature on the same
SQLite store, and come in between each other's steps. Nothing makes the check and the
addition one: callers that both find no answer both prompt the user.
-/

namespace TrustStore.Cache.Race

open TrustStore.Base
open TrustStore.Sqlite (QueryId Row)
open TrustStore.Sqlite.PreparedStatement (Advances)
open TrustStore.Sqlite.Store (OnlyReads interface)

/-- The two callers. -/
inductive Caller where
  | first
  | second
  deriving DecidableEq, Repr

/-- The opposite of a caller. -/
def Caller.other : Caller → Caller
  | first => second
  | second => first

/-- How far a call has come. A call that returned keeps the row that it added, if it did. -/
inductive Phase where
  | idle
  | missed (query : QueryId)
  | prompted (query : QueryId) (answer : Answer)
  | returned (answer : Answer) (added : Option Row)
  | threw (e : Exception)

/-- Between the query that found no answer and the addition of one. -/
def Phase.waiting : Phase → Bool
  | missed _ | prompted .. => true
  | _ => false

/-- What the user has said to the prompt of a call that reaches a phase. -/
def Phase.said (before : Option Answer) : Phase → Option Answer
  | prompted _ answer => some answer
  | _ => before

/-- The row that a call has added. -/
def Phase.rows : Phase → List Row
  | returned _ (some row) => [row]
  | _ => []

/-- The store, the two calls, what the user said to the prompt of each, and whether both were
waiting at some time: whether both ran their query without finding an answer before either added
one. -/
structure State where
  store : Sqlite.Store
  phases : Caller → Phase
  said : Caller → Option Answer
  overlapped : Bool

/-- One caller takes its next step. The answer is the user's, if the step is a prompt, and the
time is that of the addition, if it is one. -/
structure Label where
  caller : Caller
  answer : Answer
  now : Timestamp

/-- The state after a step of one caller. -/
def State.after (s : State) (caller : Caller) (store : Sqlite.Store) (phase : Phase) : State where
  store := store
  phases := Function.update s.phases caller phase
  said := Function.update s.said caller (phase.said (s.said caller))
  overlapped := s.overlapped || (phase.waiting && (s.phases caller.other).waiting)

/-- Nobody has started yet. -/
def start (store : Sqlite.Store) : State := ⟨store, fun _ => .idle, fun _ => none, false⟩

/-- The next of the three steps of a call. -/
def step (caching : Caching) (params : RequestParameters) (s : State) (l : Label) :
    Option State :=
  match s.phases l.caller with
  | .idle =>
    match (runQuery caching interface params.application.id params.feature).exec s.store with
    | (.ok (query, some answer), store) =>
      some (s.after l.caller (interface.destroy query store) (.returned answer none))
    | (.ok (query, none), store) => some (s.after l.caller store (.missed query))
    | (.error e, store) => some (s.after l.caller store (.threw e))
  | .missed query => some (s.after l.caller s.store (.prompted query l.answer))
  | .prompted query answer =>
    match (addAnswer interface query
        ⟨params.application.id, params.feature, l.now, answer⟩).exec s.store with
    | (.ok (), store) =>
      some (s.after l.caller store (.returned answer store.db.requests.getLast?))
    | (.error e, store) => some (s.after l.caller store (.threw e))
  | .returned .. => none
  | .threw _ => none

/-- The answers that later calls get, one after the other, whatever the agent would answer. -/
def serve (caching : Caching) :
    Sqlite.Store → List (Agent Sqlite.Store × Timestamp × RequestParameters) →
      List (Except Exception Answer)
  | _, [] => []
  | store, (agent, now, params) :: calls =>
    let (result, store) := (inSteps caching agent interface now params).exec store
    result :: serve caching store calls

/-- Every later call for the application and the feature that returns gives one answer. -/
def LaterReturn (caching : Caching) (params : RequestParameters) (store : Sqlite.Store)
    (answer : Answer) : Prop :=
  ∀ calls : List (Agent Sqlite.Store × Timestamp × RequestParameters),
    (∀ call ∈ calls, call.2.2.application.id = params.application.id ∧
      call.2.2.feature = params.feature) →
    ∀ result, .ok result ∈ serve caching store calls → result = answer

variable {caching : Caching} {params : RequestParameters}

/-- The rows that the callers ask for. -/
def matching (params : RequestParameters) (store : Sqlite.Store) : List Row :=
  store.db.matching params.application.id params.feature

private theorem matching_reads {s t : Sqlite.Store} (h : OnlyReads s t) :
    matching params t = matching params s := by
  rw [matching, matching, Sqlite.Connection.matching, h.requests, h.engine]
  rfl

/-- Running the query finds the newest matching row, or throws. -/
theorem runQuery_cases (caching : Caching) (s : Sqlite.Store)
    (hid : params.application.id ≠ "") :
    (∃ q t, (runQuery caching interface params.application.id params.feature).exec s =
        (.ok (q, (matching params s).head?.map fun row => row.request.answer), t) ∧
      OnlyReads s t) ∨
    ∃ e t, (runQuery caching interface params.application.id params.feature).exec s =
        (.error e, t) ∧ OnlyReads s t := by
  rw [runQuery]
  rcases s.query_cases with ⟨q, t, h, hreads, hq⟩ | ⟨e, t, h, hreads, _⟩
  · rw [Fallible.exec_bind_ok h, Fallible.exec_onError]
    have hmatching : t.db.matching params.application.id params.feature = matching params s :=
      matching_reads hreads
    rcases t.lookup_cases hq hid params.feature with
      ⟨r, h, hreads', hcurrent⟩ | ⟨e, r, h, hreads', _⟩
    · left
      rw [hmatching] at h hcurrent
      rw [Fallible.exec_bind_ok h]
      cases hrows : matching params s with
      | nil => exact ⟨q, r, rfl, hreads.trans hreads'⟩
      | cons row rest =>
        have hcur := hcurrent row (by simp [hrows])
        cases caching with
        | processTrustRequest => exact ⟨q, r, rfl, hreads.trans hreads'⟩
        | cachedAgent =>
          refine ⟨q, r, ?_, hreads.trans hreads'⟩
          simp [hcur, Except.map]
    · right
      rw [Fallible.exec_bind_error h]
      exact ⟨e, _, rfl, (hreads.trans hreads').trans (OnlyReads.destroy q r)⟩
  · right
    exact ⟨e, t, Fallible.exec_bind_error h, hreads⟩

/-- The row of an answer matches, if its feature is storable. -/
private theorem selects_answer (hfeature : Storable params.feature) (id : Int64) (now : Timestamp)
    (answer : Answer) :
    Sqlite.selects (Sqlite.narrowed params.application.id params.feature)
      (Row.ofRequest id ⟨params.application.id, params.feature, now, answer⟩) = true := by
  rw [Sqlite.selects_narrowed, decide_eq_true_eq]
  refine ⟨rfl, ?_, by simp [Row.ofRequest], by simp [Row.ofRequest]⟩
  exact congrArg Sqlite.Value.integer ((Sqlite.featureColumn_eq_iff _).mpr hfeature)

/-- Adding an answer adds a matching row, or throws and leaves the matching rows alone. -/
private theorem addAnswer_cases (s : Sqlite.Store) (hid : params.application.id ≠ "")
    (hfeature : Storable params.feature) (query : QueryId) (now : Timestamp) (answer : Answer) :
    (∃ t row, (addAnswer interface query
        ⟨params.application.id, params.feature, now, answer⟩).exec s = (.ok (), t) ∧
      t.db.requests.getLast? = some row ∧
      (∃ id, row = Row.ofRequest id ⟨params.application.id, params.feature, now, answer⟩) ∧
      (matching params t).Perm (matching params s ++ [row])) ∨
    ∃ e t, (addAnswer interface query
        ⟨params.application.id, params.feature, now, answer⟩).exec s = (.error e, t) ∧
      matching params t = matching params s := by
  rcases s.add_cases ⟨params.application.id, params.feature, now, answer⟩ with
    ⟨_, t, h, honly, _, hreq⟩ | ⟨e, t, h, honly, hreq, _⟩
  · left
    have hadd : (interface.add ⟨params.application.id, params.feature, now, answer⟩).exec s =
        (.ok (), t) := h
    rw [Sqlite.Store.addedRow_eq s hid] at hreq
    refine ⟨interface.destroy query t, Row.ofRequest (s.db.engine.rowid s.db.requests)
      ⟨params.application.id, params.feature, now, answer⟩, ?_, ?_, ⟨_, rfl⟩, ?_⟩
    · rw [addAnswer, Fallible.exec_guarded, hadd]
    · change t.db.requests.getLast? = _
      rw [hreq, List.getLast?_append_of_ne_nil _ (by simp), List.getLast?_singleton]
    · have hperm := t.db.engine.sort_perm (t.db.requests.filter
        (Sqlite.selects (Sqlite.narrowed params.application.id params.feature)))
      have hperm' := s.db.engine.sort_perm (s.db.requests.filter
        (Sqlite.selects (Sqlite.narrowed params.application.id params.feature)))
      refine hperm.trans ?_
      rw [hreq, List.filter_append, List.filter_singleton, selects_answer hfeature, cond_true]
      exact hperm'.symm.append_right _
  · right
    have hadd : (interface.add ⟨params.application.id, params.feature, now, answer⟩).exec s =
        (.error e, t) := h
    refine ⟨e, interface.destroy query t, ?_, ?_⟩
    · rw [addAnswer, Fallible.exec_guarded, hadd]
    · change t.db.engine.sort (t.db.requests.filter _) = s.db.engine.sort (s.db.requests.filter _)
      rw [hreq, honly.engine]

/-! ### One step -/

/-- What a step does to the caller that takes it and to the matching rows. -/
private inductive Moves (params : RequestParameters) (s : State) (l : Label) : State → Prop where
  | found (row : Row) (store : Sqlite.Store) (idle : s.phases l.caller = .idle)
      (newest : row ∈ (matching params s.store).head?)
      (same : matching params store = matching params s.store) :
      Moves params s l (s.after l.caller store (.returned row.request.answer none))
  | missed (query : QueryId) (store : Sqlite.Store) (idle : s.phases l.caller = .idle)
      (nothing : matching params s.store = [])
      (same : matching params store = matching params s.store) :
      Moves params s l (s.after l.caller store (.missed query))
  | prompted (query : QueryId) (missed : s.phases l.caller = .missed query) :
      Moves params s l (s.after l.caller s.store (.prompted query l.answer))
  | added (query : QueryId) (answer : Answer) (store : Sqlite.Store) (row : Row)
      (prompted : s.phases l.caller = .prompted query answer)
      (stored : ∃ id, row = Row.ofRequest id
        ⟨params.application.id, params.feature, l.now, answer⟩)
      (grown : (matching params store).Perm (matching params s.store ++ [row])) :
      Moves params s l (s.after l.caller store (.returned answer (some row)))
  | threw (e : Exception) (store : Sqlite.Store) (rows : (s.phases l.caller).rows = [])
      (pending : ∀ answer added, s.phases l.caller ≠ .returned answer added)
      (same : matching params store = matching params s.store) :
      Moves params s l (s.after l.caller store (.threw e))

private theorem step_moves (hid : params.application.id ≠ "") (hfeature : Storable params.feature)
    {s t : State} {l : Label} (hstep : step caching params s l = some t) :
    Moves params s l t := by
  rw [step] at hstep
  split at hstep
  next hidle =>
    rcases runQuery_cases caching s.store hid with ⟨q, store, h, hreads⟩ | ⟨e, store, h, hreads⟩
    · rw [h] at hstep
      have hsame : matching params store = matching params s.store := matching_reads hreads
      cases hrows : matching params s.store with
      | nil =>
        rw [hrows] at hstep
        cases Option.some.inj hstep
        exact .missed q store hidle hrows hsame
      | cons row rest =>
        rw [hrows] at hstep
        cases Option.some.inj hstep
        refine .found row _ hidle (by simp [hrows]) ?_
        exact (matching_reads (OnlyReads.destroy q store)).trans hsame
    · rw [h] at hstep
      cases Option.some.inj hstep
      exact .threw e store (by simp [hidle, Phase.rows]) (by simp [hidle]) (matching_reads hreads)
  next query hmissed =>
    cases Option.some.inj hstep
    exact .prompted query hmissed
  next query answer hprompted =>
    rcases addAnswer_cases s.store hid hfeature query l.now answer with
      ⟨store, row, h, hlast, hstored, hgrown⟩ | ⟨e, store, h, hsame⟩
    · rw [h] at hstep
      cases Option.some.inj hstep
      rw [hlast]
      exact .added query answer store row hprompted hstored hgrown
    · rw [h] at hstep
      cases Option.some.inj hstep
      exact .threw e store (by simp [hprompted, Phase.rows]) (by simp [hprompted]) hsame
  next => cases hstep
  next => cases hstep

@[simp] private theorem other_other (c : Caller) : c.other.other = c := by
  cases c <;> rfl

@[simp] private theorem other_ne (c : Caller) : c.other ≠ c := by
  cases c <;> decide

private theorem eq_or_other (c d : Caller) : d = c ∨ d = c.other := by
  cases c <;> cases d <;> decide

@[simp] private theorem after_self (s : State) (c : Caller) (store : Sqlite.Store) (p : Phase) :
    (s.after c store p).phases c = p := by
  simp [State.after]

@[simp] private theorem after_other (s : State) (c : Caller) (store : Sqlite.Store) (p : Phase) :
    (s.after c store p).phases c.other = s.phases c.other := by
  simp [State.after]

/-! ### What the user said -/

@[simp] private theorem said_self (s : State) (c : Caller) (store : Sqlite.Store) (p : Phase) :
    (s.after c store p).said c = p.said (s.said c) := by
  simp [State.after]

@[simp] private theorem said_other (s : State) (c : Caller) (store : Sqlite.Store) (p : Phase) :
    (s.after c store p).said c.other = s.said c.other := by
  simp [State.after]

/-- A call goes on with what the user said to its own prompt, and only a call that was prompted
adds a row. -/
private structure Told (p : Phase) (said : Option Answer) : Prop where
  silent : p = .idle ∨ (∃ query, p = .missed query) ∨ (∃ answer, p = .returned answer none) →
    said = none
  prompted : ∀ query answer, p = .prompted query answer → said = some answer
  added : ∀ answer row, p = .returned answer (some row) → said = some answer

private theorem told_step {s t : State} {l : Label} (hs : ∀ c, Told (s.phases c) (s.said c))
    (hmove : Moves params s l t) (c : Caller) : Told (t.phases c) (t.said c) := by
  have hafter : ∀ (store : Sqlite.Store) (p : Phase), Told p (p.said (s.said l.caller)) →
      Told ((s.after l.caller store p).phases c) ((s.after l.caller store p).said c) := by
    intro store p hp
    rcases eq_or_other l.caller c with rfl | rfl
    · rw [after_self, said_self]
      exact hp
    · rw [after_other, said_other]
      exact hs _
  have hl := hs l.caller
  cases hmove with
  | found row store hidle => exact hafter _ _ ⟨fun _ => hl.silent (.inl hidle), by simp, by simp⟩
  | missed query store hidle => exact hafter _ _ ⟨fun _ => hl.silent (.inl hidle), by simp, by simp⟩
  | prompted query hmissed => exact hafter _ _ ⟨by simp, by simp [Phase.said], by simp⟩
  | added query answer store row hprompted =>
    refine hafter _ _ ⟨by simp, by simp, fun answer' row' h => ?_⟩
    cases h
    exact hl.prompted query answer hprompted
  | threw e store => exact hafter _ _ ⟨by simp, by simp, by simp⟩

private theorem told_start (store : Sqlite.Store) (c : Caller) :
    Told ((start store).phases c) ((start store).said c) :=
  ⟨fun _ => rfl, by simp [start], by simp [start]⟩

/-! ### A store with an answer -/

/-- As long as nobody adds a row, both callers are given the newest answer. -/
private structure Answered (params : RequestParameters) (rows : List Row) (row : Row)
    (s : State) : Prop where
  matching : matching params s.store = rows
  newest : row ∈ rows.head?
  waiting : ∀ c, (s.phases c).waiting = false
  returned : ∀ c answer added, s.phases c = .returned answer added → answer = row.request.answer
  overlapped : s.overlapped = false

private theorem answered_step {rows : List Row} {row : Row} {s t : State} {l : Label}
    (hs : Answered params rows row s) (hmove : Moves params s l t) :
    Answered params rows row t := by
  have hwaiting := hs.waiting l.caller
  have hkeep : ∀ (store : Sqlite.Store) (p : Phase), matching params store = rows →
      p.waiting = false → (∀ answer added, p = .returned answer added →
        answer = row.request.answer) → Answered params rows row (s.after l.caller store p) := by
    intro store p hstore hp hanswer
    refine ⟨hstore, hs.newest, ?_, ?_, by simp [State.after, hs.overlapped, hp]⟩
    · intro c
      rcases eq_or_other l.caller c with rfl | rfl
      · simpa using hp
      · simpa using hs.waiting _
    · intro c answer added hc
      rcases eq_or_other l.caller c with rfl | rfl
      · exact hanswer answer added (by simpa using hc)
      · exact hs.returned _ answer added (by simpa using hc)
  cases hmove with
  | found row' store _ hrow hsame =>
    rw [hs.matching] at hrow
    cases Option.mem_unique hrow hs.newest
    exact hkeep store _ (hsame.trans hs.matching) rfl (by simp)
  | missed query store _ hnil =>
    have hnewest := hs.newest
    simp [← hs.matching, hnil] at hnewest
  | prompted query hmissed => simp [hmissed, Phase.waiting] at hwaiting
  | added query answer store row' hprompted => simp [hprompted, Phase.waiting] at hwaiting
  | threw e store _ _ hsame => exact hkeep store _ (hsame.trans hs.matching) rfl (by simp)

/-! ### A store without an answer -/

/-- One caller's phase, given that of the other: every matching row was added by one of them,
a caller that was not prompted got the answer of the other, and callers that both added or
will add a row were both waiting at some time. -/
private structure Pair (params : RequestParameters) (rows : List Row) (overlapped : Bool)
    (p p' : Phase) : Prop where
  rows : rows.Perm (p.rows ++ p'.rows)
  stored : ∀ answer row, p = .returned answer (some row) → ∃ id now,
    row = Row.ofRequest id ⟨params.application.id, params.feature, now, answer⟩
  found : ∀ answer, p = .returned answer none → ∃ row, p' = .returned answer (some row)
  prompted : overlapped = true → p ≠ .idle ∧ ∀ answer, p ≠ .returned answer none
  together : p.waiting ∨ p.rows ≠ [] → p'.waiting ∨ p'.rows ≠ [] → overlapped = true

/-- Both callers, each given the other. -/
private def Unanswered (params : RequestParameters) (s : State) : Prop :=
  ∀ c, Pair params (matching params s.store) s.overlapped (s.phases c) (s.phases c.other)

/-- It is enough to look at the caller that took the step, and at the other one. -/
private theorem unanswered_after {s : State} {c : Caller} {store : Sqlite.Store} {p : Phase}
    (h : Pair params (matching params store) (s.after c store p).overlapped p (s.phases c.other))
    (h' : Pair params (matching params store) (s.after c store p).overlapped (s.phases c.other) p) :
    Unanswered params (s.after c store p) := by
  intro d
  rcases eq_or_other c d with rfl | rfl
  · rw [after_self, after_other]
    exact h
  · rw [after_other, other_other, after_self]
    exact h'

private theorem rows_eq_singleton {p : Phase} {row : Row} (h : row ∈ p.rows) :
    ∃ answer, p = .returned answer (some row) := by
  cases p with
  | returned answer added =>
    cases added with
    | none => simp [Phase.rows] at h
    | some row' =>
      cases List.mem_singleton.mp h
      exact ⟨answer, rfl⟩
  | idle | missed | prompted | threw => simp [Phase.rows] at h

section Unanswered

variable {s : State} {c : Caller} {store : Sqlite.Store}

/-- A call that finds a row finds that of the other. -/
private theorem unanswered_found (hs : Unanswered params s) {row : Row}
    (hidle : s.phases c = .idle) (hnewest : row ∈ (matching params s.store).head?)
    (hsame : matching params store = matching params s.store) :
    Unanswered params (s.after c store (.returned row.request.answer none)) := by
  have hown := hs c
  have hother := hs c.other
  rw [other_other] at hother
  rw [hidle] at hown hother
  have halone : s.overlapped = false := by
    by_contra ho
    exact (hown.prompted (by simpa using ho)).1 rfl
  have hmem : row ∈ (s.phases c.other).rows :=
    hown.rows.subset (List.mem_of_mem_head? hnewest)
  obtain ⟨answer, hreturned⟩ := rows_eq_singleton hmem
  obtain ⟨id, now, hrow⟩ := hother.stored answer row hreturned
  have hanswer : row.request.answer = answer := by
    rw [hrow]
    exact Row.answer_ofRequest id _
  rw [hanswer]
  have ho : (s.after c store (.returned answer none)).overlapped = false := by
    simp [State.after, halone, Phase.waiting]
  refine unanswered_after ?_ ?_
  · rw [hsame, ho]
    exact ⟨hown.rows, by simp, fun a ha => ⟨row, by cases ha; exact hreturned⟩, by simp,
      by simp [Phase.waiting, Phase.rows]⟩
  · rw [hsame, ho]
    exact ⟨hother.rows, hother.stored, by simp [hreturned], by simp,
      by simp [Phase.waiting, Phase.rows]⟩

/-- A call that finds no row comes before the other has added one. -/
private theorem unanswered_missed (hs : Unanswered params s) (query : QueryId)
    (hidle : s.phases c = .idle) (hnil : matching params s.store = [])
    (hsame : matching params store = matching params s.store) :
    Unanswered params (s.after c store (.missed query)) := by
  have hown := hs c
  have hother := hs c.other
  rw [other_other] at hother
  rw [hidle] at hown hother
  have hrows : (s.phases c.other).rows = [] := by
    have hperm := hown.rows
    rw [hnil] at hperm
    simpa [Phase.rows] using hperm.nil_eq.symm
  have halone : s.overlapped = false := by
    by_contra ho
    exact (hown.prompted (by simpa using ho)).1 rfl
  have ho : (s.after c store (.missed query)).overlapped = (s.phases c.other).waiting := by
    simp [State.after, halone, Phase.waiting]
  refine unanswered_after ?_ ?_
  · rw [hsame, ho]
    exact ⟨hown.rows, by simp, by simp, by simp, by simp [hrows]⟩
  · rw [hsame, ho]
    refine ⟨hother.rows, hother.stored, ?_, ?_, fun h _ => by simpa [hrows] using h⟩
    · intro answer h
      obtain ⟨row, h⟩ := hother.found answer h
      simp at h
    · intro hwaiting
      exact ⟨fun h => by simp [h, Phase.waiting] at hwaiting,
        fun answer h => by simp [h, Phase.waiting] at hwaiting⟩

/-- A prompt changes nothing about the rows, and nothing about who waits. -/
private theorem unanswered_prompted (hs : Unanswered params s) {query : QueryId}
    (answer : Answer) (hmissed : s.phases c = .missed query) :
    Unanswered params (s.after c s.store (.prompted query answer)) := by
  have hown := hs c
  have hother := hs c.other
  rw [other_other] at hother
  rw [hmissed] at hown hother
  have ho : (s.after c s.store (.prompted query answer)).overlapped = s.overlapped := by
    cases hwaiting : (s.phases c.other).waiting with
    | false => simp [State.after, hwaiting]
    | true =>
      have htogether := hown.together (Or.inl rfl) (Or.inl hwaiting)
      simp [State.after, htogether]
  refine unanswered_after ?_ ?_
  · rw [ho]
    exact ⟨hown.rows, by simp, by simp, by simp, hown.together⟩
  · rw [ho]
    exact ⟨hother.rows, hother.stored, fun a h => by simpa using hother.found a h,
      hother.prompted, hother.together⟩

/-- A row that is added is that of the call. -/
private theorem unanswered_added (hs : Unanswered params s) {query : QueryId} {answer : Answer}
    {now : Timestamp} {row : Row} (hprompted : s.phases c = .prompted query answer)
    (hstored : ∃ id, row = Row.ofRequest id
      ⟨params.application.id, params.feature, now, answer⟩)
    (hgrown : (matching params store).Perm (matching params s.store ++ [row])) :
    Unanswered params (s.after c store (.returned answer (some row))) := by
  have hown := hs c
  have hother := hs c.other
  rw [other_other] at hother
  rw [hprompted] at hown hother
  have ho : (s.after c store (.returned answer (some row))).overlapped = s.overlapped := by
    simp [State.after, Phase.waiting]
  have hrows : (matching params store).Perm ((s.phases c.other).rows ++ [row]) :=
    hgrown.trans (hown.rows.append_right [row])
  obtain ⟨id, hrow⟩ := hstored
  refine unanswered_after ?_ ?_
  · rw [ho]
    refine ⟨hrows.trans List.perm_append_comm, ?_, by simp, by simp,
      fun _ h => hown.together (Or.inl rfl) h⟩
    intro answer' row' h
    cases h
    exact ⟨id, now, hrow⟩
  · rw [ho]
    exact ⟨hrows, hother.stored, fun a h => by simpa using hother.found a h, hother.prompted,
      fun h _ => hother.together h (Or.inl rfl)⟩

/-- A call that throws has no row. -/
private theorem unanswered_threw (hs : Unanswered params s) (e : Exception)
    (hrows : (s.phases c).rows = [])
    (hpending : ∀ answer added, s.phases c ≠ .returned answer added)
    (hsame : matching params store = matching params s.store) :
    Unanswered params (s.after c store (.threw e)) := by
  have hown := hs c
  have hother := hs c.other
  rw [other_other] at hother
  have ho : (s.after c store (.threw e)).overlapped = s.overlapped := by
    simp [State.after, Phase.waiting]
  have hthrew : (Phase.threw e).rows = (s.phases c).rows := hrows.symm
  refine unanswered_after ?_ ?_
  · rw [hsame, ho]
    exact ⟨hthrew ▸ hown.rows, by simp, by simp, by simp, by simp [Phase.waiting, Phase.rows]⟩
  · rw [hsame, ho]
    refine ⟨hthrew ▸ hother.rows, hother.stored, ?_, hother.prompted,
      by simp [Phase.waiting, Phase.rows]⟩
    intro answer h
    obtain ⟨row, h⟩ := hother.found answer h
    exact absurd h (hpending answer (some row))

private theorem unanswered_step {t : State} {l : Label} (hs : Unanswered params s)
    (hmove : Moves params s l t) : Unanswered params t := by
  cases hmove with
  | found row store hidle hnewest hsame => exact unanswered_found hs hidle hnewest hsame
  | missed query store hidle hnil hsame => exact unanswered_missed hs query hidle hnil hsame
  | prompted query hmissed => exact unanswered_prompted hs l.answer hmissed
  | added query answer store row hprompted hstored hgrown =>
    exact unanswered_added hs hprompted hstored hgrown
  | threw e store hrows hpending hsame => exact unanswered_threw hs e hrows hpending hsame

end Unanswered

/-! ### Later calls -/

/-- A call that finds a row gives its answer or throws, and leaves the matching rows alone. -/
private theorem inSteps_hit (caching : Caching) {store : Sqlite.Store}
    (hid : params.application.id ≠ "") {row : Row} (hrow : row ∈ (matching params store).head?)
    (agent : Agent Sqlite.Store) (now : Timestamp) :
    (∀ answer, ((inSteps caching agent interface now params).exec store).1 = .ok answer →
      answer = row.request.answer) ∧
    matching params ((inSteps caching agent interface now params).exec store).2 =
      matching params store := by
  rw [inSteps]
  rcases runQuery_cases caching store hid with ⟨q, t, h, hreads⟩ | ⟨e, t, h, hreads⟩
  · rw [Option.mem_def.mp hrow] at h
    rw [Fallible.exec_bind_ok h]
    refine ⟨fun answer ha => (Except.ok.inj ha).symm, ?_⟩
    exact matching_reads (hreads.trans (OnlyReads.destroy q t))
  · rw [Fallible.exec_bind_error h]
    exact ⟨fun answer ha => absurd ha (by simp), matching_reads hreads⟩

/-- Once a row matches, later calls give the answer of the newest. -/
private theorem laterReturn_newest {store : Sqlite.Store} (hid : params.application.id ≠ "")
    {row : Row} (hrow : row ∈ (matching params store).head?) :
    LaterReturn caching params store row.request.answer := by
  intro calls hcalls
  induction calls generalizing store with
  | nil => simp [serve]
  | cons call calls ih =>
    obtain ⟨agent, now, later⟩ := call
    obtain ⟨hlater, hfeature⟩ := hcalls _ List.mem_cons_self
    have hsame : ∀ store, matching later store = matching params store := by
      intro store
      simp only at hlater hfeature
      rw [matching, matching, hlater, hfeature]
    simp only at hlater
    rw [← hsame] at hrow
    obtain ⟨hanswer, hkeep⟩ := inSteps_hit caching (hlater ▸ hid) hrow agent now
    have hrow' : row ∈ (matching params
        ((inSteps caching agent interface now later).exec store).2).head? := by
      rw [← hsame, hkeep]
      exact hrow
    have hserve : serve caching store ((agent, now, later) :: calls) =
        ((inSteps caching agent interface now later).exec store).1 ::
          serve caching ((inSteps caching agent interface now later).exec store).2 calls := rfl
    intro result hresult
    rw [hserve] at hresult
    rcases List.mem_cons.mp hresult with h | h
    · exact hanswer result h.symm
    · exact ih hrow' (fun call hc => hcalls call (List.mem_cons_of_mem _ hc)) result h

/-! ### Both calls return -/

/-- Both callers are given the same answer, and so is every later call that returns. -/
def Agree (caching : Caching) (params : RequestParameters) (store : Sqlite.Store)
    (a b : Answer) : Prop :=
  a = b ∧ LaterReturn caching params store a

/-- What two callers that both return come to. They agree, unless both found no answer before
either added one and the user did not say the same to both of them. If both found none, each returns
what the user said to its own prompt, the rows that match are the two that were added, and later
calls are given the answer of the newest of them, by the clock. -/
structure Outcome (caching : Caching) (params : RequestParameters) (t : State) (a b : Answer)
    (p q : Option Row) : Prop where
  agree_iff : Agree caching params t.store a b ↔
    (t.overlapped = true → t.said .first = t.said .second)
  overlapped : t.overlapped = true → t.said .first = some a ∧ t.said .second = some b ∧
    ∃ r r', p = some r ∧ q = some r' ∧ r.request.answer = a ∧ r'.request.answer = b ∧
      r ∈ t.store.db.requests ∧ r' ∈ t.store.db.requests ∧
      (matching params t.store).Perm [r, r'] ∧ ∃ newest ∈ [r, r'],
        r.request.when ≤ newest.request.when ∧ r'.request.when ≤ newest.request.when ∧
          LaterReturn caching params t.store newest.request.answer

private theorem outcome_answered {rows : List Row} {row : Row} {t : State}
    (hid : params.application.id ≠ "") (h : Answered params rows row t) {a b : Answer}
    {p q : Option Row} (hfirst : t.phases .first = .returned a p)
    (hsecond : t.phases .second = .returned b q) : Outcome caching params t a b p q := by
  have ha := h.returned _ a p hfirst
  have hb := h.returned _ b q hsecond
  have hagree : Agree caching params t.store a b := by
    refine ⟨ha.trans hb.symm, ?_⟩
    rw [ha]
    exact laterReturn_newest hid (h.matching ▸ h.newest)
  exact ⟨⟨fun _ ho => by simp [h.overlapped] at ho, fun _ => hagree⟩,
    fun ho => by simp [h.overlapped] at ho⟩

/-- The newest of the matching rows is the newest of the rows that were added. -/
private theorem newest_le {store : Sqlite.Store} {newest row : Row} {now now' : Timestamp}
    (hnewest : newest ∈ (matching params store).head?) (hrow : row ∈ matching params store)
    (hn : ∃ id answer, newest = Row.ofRequest id
      ⟨params.application.id, params.feature, now', answer⟩)
    (hr : ∃ id answer, row = Row.ofRequest id
      ⟨params.application.id, params.feature, now, answer⟩) :
    row.request.when ≤ newest.request.when := by
  obtain ⟨rest, hrows⟩ := List.head?_eq_some_iff.mp hnewest
  have hsorted := store.db.engine.sort_sorted (store.db.requests.filter
    (Sqlite.selects (Sqlite.narrowed params.application.id params.feature)))
  change (matching params store).Pairwise _ at hsorted
  rw [hrows] at hsorted hrow
  have hle : row.timestamp.le newest.timestamp = true := by
    rcases List.mem_cons.mp hrow with rfl | hrest
    · obtain ⟨id, answer, rfl⟩ := hr
      simp [Row.ofRequest, Sqlite.Value.le]
    · exact (List.pairwise_cons.mp hsorted).1 row hrest
  obtain ⟨id, answer, rfl⟩ := hn
  obtain ⟨id', answer', rfl⟩ := hr
  rw [Row.when_ofRequest, Row.when_ofRequest]
  simpa [Row.ofRequest, Sqlite.Value.le] using hle

private theorem answer_of_stored {row : Row} {answer : Answer} (h : ∃ id now, row = Row.ofRequest id
    ⟨params.application.id, params.feature, now, answer⟩) : row.request.answer = answer := by
  obtain ⟨id, now, rfl⟩ := h
  exact Row.answer_ofRequest id _

/-- Callers of which one added a row before the other looked agree. -/
private theorem agree_apart {t : State} (hid : params.application.id ≠ "")
    (h : Unanswered params t) (ho : t.overlapped = false) {a b : Answer} {p q : Option Row}
    (hfirst : t.phases .first = .returned a p) (hsecond : t.phases .second = .returned b q) :
    Agree caching params t.store a b := by
  have hf := h .first
  have hs := h .second
  simp only [Caller.other, hfirst, hsecond] at hf hs
  cases p with
  | none =>
    obtain ⟨row, hrow⟩ := hf.found a rfl
    cases hrow
    have hrows : matching params t.store = [row] := List.perm_singleton.mp hf.rows
    refine ⟨rfl, ?_⟩
    rw [← answer_of_stored (hs.stored _ row rfl)]
    exact laterReturn_newest hid (by simp [hrows])
  | some row =>
    cases q with
    | none =>
      obtain ⟨row', hrow'⟩ := hs.found b rfl
      cases hrow'
      have hrows : matching params t.store = [row] := List.perm_singleton.mp hf.rows
      refine ⟨rfl, ?_⟩
      rw [← answer_of_stored (hf.stored _ row rfl)]
      exact laterReturn_newest hid (by simp [hrows])
    | some row' =>
      have htogether :=
        hf.together (Or.inr (by simp [Phase.rows])) (Or.inr (by simp [Phase.rows]))
      simp [ho] at htogether

/-- Callers that both found no answer both added theirs, and the newest of the two counts. -/
private theorem kept_overlapped {t : State} (hid : params.application.id ≠ "")
    (h : Unanswered params t) (ho : t.overlapped = true) {a b : Answer} {p q : Option Row}
    (hfirst : t.phases .first = .returned a p) (hsecond : t.phases .second = .returned b q) :
    ∃ r r', p = some r ∧ q = some r' ∧ r.request.answer = a ∧ r'.request.answer = b ∧
      r ∈ t.store.db.requests ∧ r' ∈ t.store.db.requests ∧
      (matching params t.store).Perm [r, r'] ∧ ∃ newest ∈ [r, r'],
        r.request.when ≤ newest.request.when ∧ r'.request.when ≤ newest.request.when ∧
          LaterReturn caching params t.store newest.request.answer := by
  have hf := h .first
  have hs := h .second
  simp only [Caller.other, hfirst, hsecond] at hf hs
  cases p with
  | none => exact absurd rfl ((hf.prompted ho).2 a)
  | some row =>
    cases q with
    | none => exact absurd rfl ((hs.prompted ho).2 b)
    | some row' =>
      have hr := hf.stored a row rfl
      have hr' := hs.stored b row' rfl
      have hperm : (matching params t.store).Perm [row, row'] := hf.rows
      have hmem : ∀ r ∈ [row, row'], r ∈ matching params t.store := fun r hr => hperm.symm.subset hr
      have hkept : ∀ r ∈ [row, row'], r ∈ t.store.db.requests :=
        fun r hr => (Sqlite.mem_matching.mp (hmem r hr)).1
      cases hrows : matching params t.store with
      | nil => simp [hrows] at hperm
      | cons newest rest =>
        have hnewest : newest ∈ (matching params t.store).head? := by simp [hrows]
        have hadded : newest ∈ [row, row'] := hperm.subset (List.mem_of_mem_head? hnewest)
        have hn : ∃ now id answer, newest = Row.ofRequest id
            ⟨params.application.id, params.feature, now, answer⟩ := by
          rcases List.mem_pair.mp hadded with rfl | rfl
          · obtain ⟨id, now, h⟩ := hr
            exact ⟨now, id, a, h⟩
          · obtain ⟨id, now, h⟩ := hr'
            exact ⟨now, id, b, h⟩
        obtain ⟨now, hn⟩ := hn
        refine ⟨row, row', rfl, rfl, answer_of_stored hr, answer_of_stored hr',
          hkept row (by simp), hkept row' (by simp), hrows ▸ hperm, newest, hadded, ?_, ?_,
          laterReturn_newest hid hnewest⟩
        · obtain ⟨id, now', h⟩ := hr
          exact newest_le hnewest (hmem row (by simp)) hn ⟨id, a, h⟩
        · obtain ⟨id, now', h⟩ := hr'
          exact newest_le hnewest (hmem row' (by simp)) hn ⟨id, b, h⟩

private theorem outcome_unanswered {t : State} (hid : params.application.id ≠ "")
    (h : Unanswered params t) (htold : ∀ c, Told (t.phases c) (t.said c)) {a b : Answer}
    {p q : Option Row} (hfirst : t.phases .first = .returned a p)
    (hsecond : t.phases .second = .returned b q) : Outcome caching params t a b p q := by
  cases ho : t.overlapped with
  | false =>
    have hagree : Agree caching params t.store a b := agree_apart hid h ho hfirst hsecond
    exact ⟨⟨fun _ hover => by simp [ho] at hover, fun _ => hagree⟩, by simp [ho]⟩
  | true =>
    obtain ⟨r, r', rfl, rfl, hr, hr', hkept⟩ :=
      kept_overlapped hid h ho hfirst hsecond
    have hsaid := (htold .first).added a r hfirst
    have hsaid' := (htold .second).added b r' hsecond
    refine ⟨⟨fun hagree _ => ?_, fun hsame => ?_⟩,
      fun _ => ⟨hsaid, hsaid', r, r', rfl, rfl, hr, hr', hkept⟩⟩
    · rw [hsaid, hsaid', hagree.1]
    · -- whichever is newest, its answer is what the user said to both
      have hab : a = b := by
        have hboth := hsame ho
        rw [hsaid, hsaid'] at hboth
        exact Option.some.inj hboth
      obtain ⟨-, -, -, newest, hnewest, -, -, hlater⟩ := hkept
      refine ⟨hab, ?_⟩
      rcases List.mem_pair.mp hnewest with rfl | rfl
      · rwa [hr] at hlater
      · rwa [hr', ← hab] at hlater

/-- Whatever the order of the steps and whatever the user answers, two calls for an application
and a storable feature that both return end as `Outcome` says. -/
theorem outcome_run {store : Sqlite.Store} {ls : List Label} {t : State}
    (hid : params.application.id ≠ "") (hfeature : Storable params.feature)
    (hrun : Transition.run (step caching params) (start store) ls = some t)
    {a b : Answer} {p q : Option Row} (hfirst : t.phases .first = .returned a p)
    (hsecond : t.phases .second = .returned b q) : Outcome caching params t a b p q := by
  have hmeets : Transition.Meets (step caching params) (fun _ _ => True) (start store) ls :=
    Transition.meets_true _ ls
  cases hrows : matching params store with
  | cons row rest =>
    have hstart : Answered params (row :: rest) row (start store) :=
      ⟨hrows, by simp, fun _ => rfl, by simp [start], rfl⟩
    have ht := Transition.invariant_run
      (fun s l t hs _ hstep => answered_step hs (step_moves hid hfeature hstep))
      hstart hmeets hrun
    exact outcome_answered hid ht hfirst hsecond
  | nil =>
    have hstart : Unanswered params (start store) := by
      intro c
      exact ⟨by simp [start, hrows, Phase.rows], by simp [start], by simp [start], by simp [start],
        by simp [start, Phase.waiting, Phase.rows]⟩
    have ht := Transition.invariant_run
      (fun s l t hs _ hstep => unanswered_step hs (step_moves hid hfeature hstep))
      hstart hmeets hrun
    have htold := Transition.invariant_run
      (fun s l t hs _ hstep => told_step hs (step_moves hid hfeature hstep))
      (told_start store) hmeets hrun
    exact outcome_unanswered hid ht htold hfirst hsecond

/-- A request for the feature 1 by the application `app`. -/
def request : RequestParameters := ⟨⟨⟨1000⟩, ⟨42⟩, "app"⟩, ⟨1⟩, "Access?"⟩

/-- Both callers run their query, the user denies the first one's prompt and grants the second
one's, and both answers are added. -/
def bothPrompted : List Label :=
  [⟨.first, .denied, 0⟩, ⟨.second, .denied, 0⟩, ⟨.first, .denied, 0⟩, ⟨.second, .granted, 0⟩,
    ⟨.first, .denied, 5⟩, ⟨.second, .denied, 6⟩]

/-- The first call is over before the second starts. -/
def oneAfterTheOther : List Label :=
  [⟨.first, .denied, 0⟩, ⟨.first, .granted, 0⟩, ⟨.first, .denied, 5⟩, ⟨.second, .denied, 0⟩]

/-- Then the second call is given the answer of the first. -/
theorem outcome_run_apart : ∃ t,
    Transition.run (step .cachedAgent request) (start (Sqlite.Store.empty Sqlite.Engine.stable))
      oneAfterTheOther = some t ∧ Outcome .cachedAgent request t .granted .granted
        (some (Row.ofRequest 1 ⟨"app", ⟨1⟩, 5, .granted⟩)) none := by
  refine ⟨_, rfl, ?_⟩
  have hrun : Transition.run (step .cachedAgent request)
      (start (Sqlite.Store.empty Sqlite.Engine.stable)) oneAfterTheOther = some _ := rfl
  exact outcome_run (by decide) (by decide) hrun rfl rfl

/-- Of two callers that are both prompted one is denied and the other one granted the feature. -/
theorem disagree_bothPrompted : ∃ t,
    Transition.run (step .cachedAgent request) (start (Sqlite.Store.empty Sqlite.Engine.stable))
      bothPrompted = some t ∧
    t.phases .first = .returned .denied (some (Row.ofRequest 1 ⟨"app", ⟨1⟩, 5, .denied⟩)) ∧
    t.phases .second = .returned .granted (some (Row.ofRequest 2 ⟨"app", ⟨1⟩, 6, .granted⟩)) :=
  ⟨_, rfl, rfl, rfl⟩

end TrustStore.Cache.Race
