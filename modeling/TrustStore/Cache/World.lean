import TrustStore.Agents.Cached
import TrustStore.Sqlite.Lookup

/-!
# A cached agent on an SQLite store

Puts `CachedAgent` on top of the SQLite store and records which prompts reach the user. A
call comes with the outcome that its prompt would have and with the time at which its answer
would be added; `World.authenticate_ending` says all that it can do.
-/

namespace TrustStore.Cache

open TrustStore.Base
open TrustStore.Sqlite (Row)
open TrustStore.Sqlite.PreparedStatement (Advances)

/-- A store together with a record of the prompts shown so far, newest last. -/
structure World (ρ : Type) where
  store : Sqlite.Store
  prompts : List ρ

/-- A call to a cached agent: its parameters, how a prompt for it would end, what would be
recorded about a prompt with given parameters, and the time at which its answer would be
added. -/
structure Call (ρ : Type) where
  params : RequestParameters
  prompt : Except Exception Answer
  entry : RequestParameters → ρ
  now : Timestamp

variable {ρ : Type}

/-- The request that the answer to a prompt is stored as. -/
def Call.request (call : Call ρ) (answer : Answer) : Request where
  origin := call.params.application.id
  feature := call.params.feature
  when := call.now
  answer := answer

/-- The rows that the call finds in the store. -/
def Call.matching (call : Call ρ) (store : Sqlite.Store) : List Row :=
  store.db.matching call.params.application.id call.params.feature

namespace World

/-- The SQLite store as a component of the world. -/
def storeOf : Store (World ρ) Sqlite.QueryId :=
  Sqlite.Store.interface.zoom World.store fun w store => { w with store }

/-- The agent that prompts the user, and records it. -/
def prompting (call : Call ρ) : Agent (World ρ) := fun params =>
  Fallible.ofFn fun w => (call.prompt, { w with prompts := w.prompts ++ [call.entry params] })

/-- One call to a `CachedAgent`. -/
def authenticate (call : Call ρ) : Action (World ρ) Answer :=
  CachedAgent.authenticateRequestWithParameters (prompting call) storeOf
    CachedAgent.Reporter.silent (pure call.now) call.params

/-- How a call ends: with the newest matching row, with an answer that is added, with an
exception out of the prompt, or with one out of the store. -/
inductive Ending (call : Call ρ) (w : World ρ) :
    Except Exception Answer × World ρ → Prop where
  | cached (row : Row) (store : Sqlite.Store)
      (matching : row ∈ (call.matching w.store).head?)
      (reads : w.store.OnlyReads store) :
      Ending call w (.ok row.request.answer, { w with store })
  | answered (answer : Answer) (store : Sqlite.Store) (row : Row)
      (matching : call.matching w.store = [])
      (prompt : call.prompt = .ok answer)
      (added : row = Row.ofRequest row.id (call.request answer))
      (requests : store.db.requests = w.store.db.requests ++ [row])
      (reset : w.store.insertStatement.cursor.errorCode = none)
      (ready : store.insertStatement.cursor.errorCode = none)
      (advances : Advances w.store.db store.db) :
      Ending call w (.ok answer, ⟨store, w.prompts ++ [call.entry call.params]⟩)
  | unanswered (e : Exception) (store : Sqlite.Store)
      (matching : call.matching w.store = [])
      (prompt : call.prompt = .error e)
      (reads : w.store.OnlyReads store) :
      Ending call w (.error e, ⟨store, w.prompts ++ [call.entry call.params]⟩)
  | failed (e : Exception) (store : Sqlite.Store) (prompts : List ρ)
      (prompted : prompts = w.prompts ∨ prompts = w.prompts ++ [call.entry call.params])
      (requests : store.db.requests = w.store.db.requests)
      (advances : Advances w.store.db store.db)
      (why : w.store.db.faults ≠ [] ∨ w.store.insertStatement.cursor.errorCode ≠ none) :
      Ending call w (.error e, ⟨store, prompts⟩)

private theorem lookup_storeOf (q : Sqlite.QueryId) (id : String) (feature : Feature) :
    (storeOf (ρ := ρ)).lookup q id feature =
      Fallible.zoom World.store (fun w store => { w with store })
        (Sqlite.Store.interface.lookup q id feature) := by
  apply Store.lookup_zoom
  · intro w store
    rfl
  · intro w store store'
    rfl
  · intro w
    rfl

/-- A call on the store runs as it would without the rest of the world. -/
private theorem zoom_exec {α : Type} {m : Action Sqlite.Store α} {w : World ρ}
    {r : Except Exception α} {store : Sqlite.Store} (h : m.exec w.store = (r, store)) :
    (Fallible.zoom World.store (fun (w : World ρ) store => { w with store }) m).exec w =
      (r, { w with store }) := by
  rw [Fallible.exec_zoom, h]

/-- Without a matching row the user is prompted, and an answer is added. -/
private theorem prompt_ending {call : Call ρ} {w : World ρ} (hid : call.params.application.id ≠ "")
    {t : Sqlite.Store} (hread : w.store.OnlyReads t) (hrows : call.matching w.store = [])
    (q : Sqlite.QueryId) :
    Ending call w ((Fallible.guarded (do
      let answer ← prompting call call.params
      storeOf.add (call.request answer)
      return answer) (storeOf.destroy q)).exec { w with store := t }) := by
  rw [Fallible.exec_guarded]
  cases hp : call.prompt with
  | error e =>
    have hask : (prompting call call.params).exec { w with store := t } =
        (.error e, ⟨t, w.prompts ++ [call.entry call.params]⟩) := by
      rw [prompting, Fallible.exec_ofFn, hp]
    rw [Fallible.exec_bind_error hask]
    exact .unanswered e _ hrows hp (hread.trans (Sqlite.Store.OnlyReads.destroy q t))
  | ok answer =>
    have hask : (prompting call call.params).exec { w with store := t } =
        (.ok answer, ⟨t, w.prompts ++ [call.entry call.params]⟩) := by
      rw [prompting, Fallible.exec_ofFn, hp]
    rw [Fallible.exec_bind_ok hask]
    rcases t.add_cases (call.request answer) with
      ⟨hcode, r, h, honly, hready, hreq⟩ | ⟨e, r, h, honly, hreq, hwhy⟩
    · have hadd : (storeOf.add (call.request answer)).exec
          ⟨t, w.prompts ++ [call.entry call.params]⟩ = _ := zoom_exec h
      rw [Fallible.exec_bind_ok hadd]
      rw [Sqlite.Store.addedRow_eq t hid, hread.requests] at hreq
      rw [hread.insertStatement] at hcode
      exact .answered answer _ _ hrows hp rfl hreq hcode hready
        (hread.toAdvances.trans honly.toAdvances)
    · have hadd : (storeOf.add (call.request answer)).exec
          ⟨t, w.prompts ++ [call.entry call.params]⟩ = _ := zoom_exec h
      rw [Fallible.exec_bind_error hadd]
      refine .failed e _ _ (Or.inr rfl) (hreq.trans hread.requests)
        (hread.toAdvances.trans honly.toAdvances) ?_
      rcases hwhy with hwhy | hwhy | hwhy
      · exact Or.inl fun hnil => hwhy (hread.faults hnil)
      · exact Or.inr (hread.insertStatement ▸ hwhy)
      · have horigin : (call.request answer).origin ≠ "" := hid
        exact absurd hwhy (Sqlite.Store.boundId_ne_null t horigin)

/-- All that a call with an application id can do. -/
theorem authenticate_ending (call : Call ρ) (w : World ρ) (hid : call.params.application.id ≠ "") :
    Ending call w ((authenticate call).exec w) := by
  rw [authenticate, CachedAgent.authenticateRequestWithParameters]
  rcases w.store.query_cases with ⟨q, s, h, hreads, hq⟩ | ⟨e, s, h, hreads, hf⟩
  · have hquery : storeOf.query.exec w = (.ok q, { w with store := s }) := zoom_exec h
    rw [Fallible.exec_bind_ok hquery, Fallible.exec_guarded, lookup_storeOf]
    have hmatching : s.db.matching call.params.application.id call.params.feature =
        call.matching w.store := by
      rw [Sqlite.Connection.matching, hreads.requests, hreads.engine]
      rfl
    rcases s.lookup_cases hq hid call.params.feature with
      ⟨t, h, hreads', hcurrent⟩ | ⟨e, t, h, hreads', hf⟩
    · have hread := hreads.trans hreads'
      rw [hmatching] at h hcurrent
      have hlookup := zoom_exec (w := { w with store := s }) h
      rw [Fallible.exec_bind_ok hlookup]
      cases hrows : call.matching w.store with
      | cons row rest =>
        have hrow : row ∈ (call.matching w.store).head? := by simp [hrows]
        have hcur : (storeOf.current q).exec { w with store := t } =
            (.ok row.request, { w with store := t }) := zoom_exec (hcurrent row hrow)
        simp only [List.head?_cons, Option.map_some, CachedAgent.Reporter.silent, pure_bind]
        rw [Fallible.exec_bind_ok hcur]
        exact .cached row _ hrow (hread.trans (Sqlite.Store.OnlyReads.destroy q t))
      | nil =>
        simp only [List.head?_nil, Option.map_none, CachedAgent.Reporter.silent, pure_bind]
        exact prompt_ending hid hread hrows q
    · rw [Fallible.exec_bind_error (zoom_exec (w := { w with store := s }) h)]
      have hread := (hreads.trans hreads').trans (Sqlite.Store.OnlyReads.destroy q t)
      exact .failed e _ w.prompts (Or.inl rfl) hread.requests hread.toAdvances
        (Or.inl fun hnil => hf (hreads.faults hnil))
  · have hquery : storeOf.query.exec w = (.error e, { w with store := s }) := zoom_exec h
    rw [Fallible.exec_bind_error hquery]
    exact .failed e s w.prompts (Or.inl rfl) hreads.requests hreads.toAdvances (Or.inl hf)

/-! ### Without failures -/

/-- No SQLite call fails for a reason of its own, and none has left the insert statement
halted. -/
structure Ready (store : Sqlite.Store) : Prop where
  faults : store.db.faults = []
  insert : store.insertStatement.cursor.errorCode = none

private theorem ready_reads {s t : Sqlite.Store} (hs : Ready s) (h : s.OnlyReads t) : Ready t :=
  ⟨h.faults hs.faults, h.insertStatement ▸ hs.insert⟩

/-- A call that finds rows returns the answer of the newest, and prompts nobody. -/
theorem authenticate_hit {call : Call ρ} {w : World ρ} (hid : call.params.application.id ≠ "")
    (hw : Ready w.store) {row : Row} {rest : List Row}
    (hrows : call.matching w.store = row :: rest) :
    ∃ store, (authenticate call).exec w = (.ok row.request.answer, { w with store }) ∧
      w.store.OnlyReads store ∧ Ready store := by
  have hend := authenticate_ending call w hid
  generalize ho : (authenticate call).exec w = outcome at hend
  cases hend with
  | cached row' store hrow hreads =>
    rw [hrows, List.head?_cons, Option.mem_some_iff] at hrow
    rw [hrow]
    exact ⟨store, rfl, hreads, ready_reads hw hreads⟩
  | answered _ _ _ hnil => simp [hrows] at hnil
  | unanswered _ _ hnil => simp [hrows] at hnil
  | failed _ _ _ _ _ _ hwhy =>
    rcases hwhy with hf | hf
    · exact absurd hw.faults hf
    · exact absurd hw.insert hf

/-- The rows that a call adds if it finds none: one for an answer, none for an exception. -/
def added (call : Call ρ) (id : Int64) : List Row :=
  match call.prompt with
  | .ok answer => [Row.ofRequest id (call.request answer)]
  | .error _ => []

/-- A call that finds no row ends as its prompt does, and adds the answer. -/
theorem authenticate_miss {call : Call ρ} {w : World ρ} (hid : call.params.application.id ≠ "")
    (hw : Ready w.store) (hrows : call.matching w.store = []) :
    ∃ store id, (authenticate call).exec w =
        (call.prompt, ⟨store, w.prompts ++ [call.entry call.params]⟩) ∧
      store.db.requests = w.store.db.requests ++ added call id ∧
      store.db.engine = w.store.db.engine ∧ Ready store := by
  have hend := authenticate_ending call w hid
  generalize ho : (authenticate call).exec w = outcome at hend
  cases hend with
  | cached row store hrow => simp [hrows] at hrow
  | answered answer store row _ hprompt hadded hreq _ hready hadv =>
    refine ⟨store, row.id, by rw [hprompt], ?_, hadv.engine, hadv.faults hw.faults, hready⟩
    rw [hreq, added, hprompt]
    exact congrArg (fun r => w.store.db.requests ++ [r]) hadded
  | unanswered e store _ hprompt hreads =>
    refine ⟨store, 0, by rw [hprompt], ?_, hreads.engine, ready_reads hw hreads⟩
    rw [hreads.requests, added, hprompt, List.append_nil]
  | failed _ _ _ _ _ _ hwhy =>
    rcases hwhy with hf | hf
    · exact absurd hw.faults hf
    · exact absurd hw.insert hf

end World
end TrustStore.Cache
