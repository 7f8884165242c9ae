import TrustStore.Dbus.Replies
import TrustStore.Dbus.Resolve

/-!
# Failures of the exposed store

Whether a client of the resolved store sees that an operation failed on the service. A failed
operation is answered with an error or not at all, and every call throws in both cases, but the
client of `reset` catches what its call throws, and that of `all` does not look at the reply.
-/

namespace TrustStore.Dbus

open TrustStore.Base

variable {σ κ : Type}

/-- A call of an operation of a store, or of a query that was made on it. -/
inductive Call (κ : Type) where
  | add (request : Request)
  | removeApplication (id : String)
  | reset
  | query
  | onQuery (query : κ) (operation : QueryOperation)

namespace Call

/-- The operation that is called, whatever it returns. -/
def perform (store : Store σ κ) : Call κ → Action σ PUnit
  | .add request => store.add request
  | .removeApplication id => store.removeApplication id
  | .reset => store.reset
  | .query => do let _ ← store.query
  | .onQuery q operation => do let _ ← store.onQuery q operation

/-- The call of the wrapped store that a client asks for, if the query has an object. -/
def wrapped (queryStore : ObjectPath → Option κ) : Call ObjectPath → Option (Call κ)
  | .add request => some (.add request)
  | .removeApplication id => some (.removeApplication id)
  | .reset => some .reset
  | .query => some .query
  | .onQuery path operation => (queryStore path).map (.onQuery · operation)

end Call

namespace Resolve

/-- If the wrapped operation throws a runtime error, then the call throws, and if the call returns,
then the wrapped operation has returned. -/
structure FailureVisible (bus : Bus) (store : Store σ κ) (call : Call ObjectPath)
    (t : Token σ κ) : Prop where
  throws : ∀ wrapped e s, call.wrapped t.queryStore = some wrapped →
    (wrapped.perform store).exec t.store = (.error e, s) → e.isRuntimeError = true →
    ∃ e' u, (call.perform (remote bus store)).exec t = (.error e', u)
  returns : ∀ u, (call.perform (remote bus store)).exec t = (.ok ⟨⟩, u) →
    ∃ wrapped s, call.wrapped t.queryStore = some wrapped ∧
      (wrapped.perform store).exec t.store = (.ok ⟨⟩, s)

/-- A failed reset would leave the client of `reset` with an exception that it does not catch:
it is not answered, and the bus throws no runtime error for that. -/
def ResetEscapes (bus : Bus) (e : Exception) : Prop :=
  Token.isErrorResettingStore e = false ∧ bus.noReply.isRuntimeError = false

variable {bus : Bus} {store : Store σ κ} {t : Token σ κ} {s : σ} {e : Exception}
  {path : ObjectPath} {q : κ}

/-! ### Operations that fail -/

/-- The contents of a return are taken out, and an error is thrown. -/
private theorem invoke_value_error {handler : Action (Token σ κ) PUnit} {u : Token σ κ}
    {r : Except Exception PUnit} {name : ErrorName} {what : String} {rest : List Reply}
    {α : Type} (f : Message → Action (Token σ κ) α)
    (h : handler.exec { t with sent := [] } = (r, u)) (hsent : u.sent = .error name what :: rest) :
    (do f (← value bus (← invoke bus handler)) : Action (Token σ κ) α).exec t =
      (.error (.runtimeError (bus.print name what)), { u with sent := [] }) := by
  rw [Fallible.exec_bind_ok (invoke_exec bus h hsent)]
  rfl

/-- A failed change of a query is not answered. -/
private theorem change_error {method : Token.QueryMethod} {msg : Message} {m : Action σ PUnit}
    (hq : t.queryStore path = some q)
    (hhandle : (Token.handle store msg (.onQuery q method)).exec { t with sent := [] } =
      (Token.replyAfter m).exec { t with sent := [] })
    (h : m.exec t.store = (.error e, s)) :
    (change bus store path method msg).exec t = (.error bus.noReply, idle t s) :=
  Fallible.exec_bind_error
    (invokeOn_noReply bus method msg hq (hhandle.trans (Token.replyAfter_error h)) rfl)

/-- Nor is one whose value is read from the message. -/
private theorem change_read_error {α : Type} [Codec α] [LawfulCodec α] {method : Token.QueryMethod}
    {m : α → Action σ PUnit} (a : α) (hq : t.queryStore path = some q)
    (hhandle : Token.handle store (Codec.encode a) (.onQuery q method) =
      Token.read α (Codec.encode a) >>= fun a => Token.replyAfter (m a))
    (h : (m a).exec t.store = (.error e, s)) :
    (change bus store path method (Codec.encode a)).exec t = (.error bus.noReply, idle t s) := by
  have hread := Token.read_exec (decode_encode a) { t with sent := [] }
  apply change_error hq _ h
  rw [hhandle, Fallible.exec_bind_ok hread]

/-- A failed operation on a query is not answered, up to a missing current request. -/
private theorem remote_onQuery_error (bus : Bus) {operation : QueryOperation}
    (hq : t.queryStore path = some q)
    (h : (store.onQuery q operation).exec t.store = (.error e, s)) :
    ∃ e' u, ((remote bus store).onQuery path operation).exec t = (.error e', u) := by
  cases operation with
  | all =>
    have hm := Fallible.exec_bind_pure_eq_error h
    have hinvoke := invokeOn_noReply bus .all [] hq (Token.replyAfter_error hm) rfl
    exact ⟨_, _, Fallible.exec_bind_error (Fallible.exec_bind_error hinvoke)⟩
  | forApplicationId id =>
    have hm := Fallible.exec_bind_pure_eq_error h
    exact ⟨_, _, Fallible.exec_bind_error (change_read_error id hq rfl hm)⟩
  | forFeature feature =>
    have hm := Fallible.exec_bind_pure_eq_error h
    exact ⟨_, _, Fallible.exec_bind_error (change_read_error feature hq rfl hm)⟩
  | forInterval first last =>
    have hm := Fallible.exec_bind_pure_eq_error h
    exact ⟨_, _, Fallible.exec_bind_error (change_read_error (first, last) hq rfl hm)⟩
  | forAnswer answer =>
    have hm := Fallible.exec_bind_pure_eq_error h
    exact ⟨_, _, Fallible.exec_bind_error (change_read_error answer hq rfl hm)⟩
  | execute =>
    have hm := Fallible.exec_bind_pure_eq_error h
    exact ⟨_, _, Fallible.exec_bind_error (change_error hq rfl hm)⟩
  | next =>
    have hm := Fallible.exec_bind_pure_eq_error h
    exact ⟨_, _, Fallible.exec_bind_error (change_error hq rfl hm)⟩
  | erase =>
    have hm := Fallible.exec_bind_pure_eq_error h
    exact ⟨_, _, Fallible.exec_bind_error (change_error hq rfl hm)⟩
  | current =>
    have hm := Fallible.exec_bind_pure_eq_error h
    cases he : Token.isNoCurrentResult e with
    | true =>
      obtain rfl : e = .noCurrentResult := by
        cases e <;> simp [Token.isNoCurrentResult] at he
        rfl
      exact ⟨_, _, remote_onQuery_noCurrentResult hq hm⟩
    | false =>
      have hinvoke := invokeOn_noReply bus .current [] hq (Token.handleCurrent_passed hm he) rfl
      exact ⟨_, _, Fallible.exec_bind_error (Fallible.exec_bind_error hinvoke)⟩
  | status =>
    have hm := Fallible.exec_bind_pure_eq_error h
    have hinvoke := invokeOn_noReply bus .status [] hq (Token.replyWith_error hm) rfl
    exact ⟨_, _, Fallible.exec_bind_error (Fallible.exec_bind_error hinvoke)⟩

/-- A failed change is answered with an error, or not at all. -/
private theorem replyOrError_throws {name : ErrorName} {m : Action σ PUnit}
    {handler : Action (Token σ κ) PUnit} (bus : Bus)
    (hhandle : handler.exec { t with sent := [] } =
      (Token.replyOrError name m).exec { t with sent := [] })
    (h : m.exec t.store = (.error e, s)) :
    ∃ e' u, (do let _ ← value bus (← invoke bus handler) : Action (Token σ κ) PUnit).exec t =
      (.error e', u) := by
  cases he : e.isRuntimeError with
  | true =>
    rw [Token.replyOrError_error (t := { t with sent := [] }) h he] at hhandle
    exact ⟨_, _, invoke_value_error _ hhandle rfl⟩
  | false =>
    have hpassed := Token.catching_passed (t := { t with sent := [] }) (Token.onStore_exec h) he
    have hnone := hhandle.trans (Fallible.exec_bind_error hpassed)
    exact ⟨_, _, Fallible.exec_bind_error (invoke_noReply bus hnone rfl)⟩

/-- A query that cannot be made is answered with an error, or not at all. -/
private theorem query_error (bus : Bus) (h : store.query.exec t.store = (.error e, s)) :
    ∃ e' u, (query bus store).exec t = (.error e', u) := by
  cases he : e.isRuntimeError with
  | true =>
    have hhandle := Token.handleAddQuery_error (t := { t with sent := [] }) h he
    exact ⟨_, _, invoke_value_error _ hhandle rfl⟩
  | false =>
    have hhandle := Token.handleAddQuery_passed (t := { t with sent := [] }) h he
    exact ⟨_, _, Fallible.exec_bind_error (invoke_noReply bus hhandle rfl)⟩

/-- The failures of all operations but `reset` are thrown at the client, whatever they are. -/
private theorem remote_error (bus : Bus) {call : Call ObjectPath} (hreset : call ≠ .reset)
    {wrapped : Call κ} (hwrapped : call.wrapped t.queryStore = some wrapped)
    (h : (wrapped.perform store).exec t.store = (.error e, s)) :
    ∃ e' u, (call.perform (remote bus store)).exec t = (.error e', u) := by
  cases call with
  | add request =>
    cases hwrapped
    exact replyOrError_throws bus (handle_add store request _) h
  | removeApplication id =>
    cases hwrapped
    exact replyOrError_throws bus (handle_removeApplication store id _) h
  | reset => exact absurd rfl hreset
  | query =>
    cases hwrapped
    obtain ⟨e', u, hquery⟩ := query_error bus (Fallible.exec_bind_pure_eq_error h)
    exact ⟨e', u, Fallible.exec_bind_error hquery⟩
  | onQuery path operation =>
    obtain ⟨q, hq, rfl⟩ := Option.map_eq_some_iff.mp hwrapped
    obtain ⟨e', u, honQuery⟩ := remote_onQuery_error bus hq (Fallible.exec_bind_pure_eq_error h)
    exact ⟨e', u, Fallible.exec_bind_error honQuery⟩

/-! ### Objects that do not exist -/

/-- A call on an object that does not exist gets the reply of the bus. -/
private theorem invokeOn_unknown (bus : Bus) (store : Store σ κ) (method : Token.QueryMethod)
    (msg : Message) (hq : t.queryStore path = none) :
    (invokeOn bus store path method msg).exec t =
      (.ok bus.unknownObject, { t with sent := [] }) := by
  refine invoke_exec bus (r := .ok ⟨⟩) (u := { t with sent := [bus.unknownObject] }) ?_
    (Eq.refl [bus.unknownObject])
  rw [Fallible.exec_bind_ok (Fallible.exec_get _), hq]
  rfl

/-- The error of the bus is thrown by all operations but `all`. -/
private theorem onQuery_unknown (store : Store σ κ) {name : ErrorName} {what : String}
    (hunknown : bus.unknownObject = .error name what) (hq : t.queryStore path = none)
    {operation : QueryOperation} (hall : operation ≠ .all) :
    ∃ e u, ((remote bus store).onQuery path operation).exec t = (.error e, u) := by
  have hinvoke := fun method msg => invokeOn_unknown bus store method msg hq
  rw [hunknown] at hinvoke
  have hchange : ∀ method msg, (change bus store path method msg).exec t =
      (.error (.runtimeError (bus.print name what)), { t with sent := [] }) :=
    fun method msg => Fallible.exec_bind_ok (hinvoke method msg)
  cases operation with
  | all => exact absurd rfl hall
  | forApplicationId id => exact ⟨_, _, Fallible.exec_bind_error (hchange _ _)⟩
  | forFeature feature => exact ⟨_, _, Fallible.exec_bind_error (hchange _ _)⟩
  | forInterval first last => exact ⟨_, _, Fallible.exec_bind_error (hchange _ _)⟩
  | forAnswer answer => exact ⟨_, _, Fallible.exec_bind_error (hchange _ _)⟩
  | execute => exact ⟨_, _, Fallible.exec_bind_error (hchange _ _)⟩
  | next => exact ⟨_, _, Fallible.exec_bind_error (hchange _ _)⟩
  | erase => exact ⟨_, _, Fallible.exec_bind_error (hchange _ _)⟩
  | current =>
    have hcurrent : (current bus store path).exec t =
        (.error .noCurrentResult, { t with sent := [] }) := Fallible.exec_bind_ok (hinvoke _ _)
    exact ⟨_, _, Fallible.exec_bind_error hcurrent⟩
  | status =>
    have hstatus : (status bus store path).exec t =
        (.error (.runtimeError (bus.print name what)), { t with sent := [] }) :=
      Fallible.exec_bind_ok (hinvoke _ _)
    exact ⟨_, _, Fallible.exec_bind_error hstatus⟩

/-- Nobody looks at the error that `all` gets. -/
private theorem all_unknown (bus : Bus) (store : Store σ κ) (hq : t.queryStore path = none) :
    ∃ u, ((Call.onQuery path .all).perform (remote bus store)).exec t = (.ok ⟨⟩, u) := by
  have hall : (all bus store path).exec t = (.ok ⟨⟩, { t with sent := [] }) :=
    Fallible.exec_bind_ok (invokeOn_unknown bus store .all [] hq)
  exact ⟨_, Fallible.exec_bind_ok (Fallible.exec_bind_ok hall)⟩

/-! ### Resets that fail -/

/-- What comes of a failed reset. -/
private theorem tryReset_error (bus : Bus) (h : store.reset.exec t.store = (.error e, s)) :
    ∃ e', (tryReset bus store).exec t = (.error e', idle t s) ∧
      (e'.isRuntimeError = false ↔ ResetEscapes bus e) := by
  cases he : Token.isErrorResettingStore e with
  | true =>
    have hhandle := Token.handleReset_taken (t := { t with sent := [] }) h he
    refine ⟨_, invoke_value_error _ hhandle rfl, ?_⟩
    simp [Exception.isRuntimeError, ResetEscapes, he]
  | false =>
    have hhandle := Token.handleReset_passed (t := { t with sent := [] }) h he
    refine ⟨_, Fallible.exec_bind_error (invoke_noReply bus hhandle rfl), ?_⟩
    simp [ResetEscapes, he]

/-- A client sees a failed reset only if the exception of its call escapes. -/
private theorem reset_error_iff (h : store.reset.exec t.store = (.error e, s)) :
    (∃ e' u, (reset bus store).exec t = (.error e', u)) ↔ ResetEscapes bus e := by
  obtain ⟨e', htry, hescapes⟩ := tryReset_error bus h
  rw [← hescapes, reset, Fallible.exec_tryCatch, htry]
  cases he : e'.isRuntimeError with
  | true => simp [he]
  | false => simp [he]

/-! ### Which failures clients see -/

/-- Clients see the failures of all operations but `reset`, and those of `reset` only where they
are not answered and the bus throws no runtime error for that. Of a query whose object the service
does not have, nothing that `all` asks for is done. -/
theorem failureVisible_iff {bus : Bus} (store : Store σ κ) (call : Call ObjectPath)
    (t : Token σ κ) (hunknown : ∃ name what, bus.unknownObject = .error name what) :
    FailureVisible bus store call t ↔
      (call = .reset → ∀ e s, store.reset.exec t.store = (.error e, s) → ResetEscapes bus e) ∧
      (∀ path, call = .onQuery path .all → (t.queryStore path).isSome) := by
  obtain ⟨name, what, hunknown⟩ := hunknown
  constructor
  · intro hvisible
    refine ⟨?_, ?_⟩
    · rintro rfl e s h
      rcases hclient : (reset bus store).exec t with ⟨e' | ⟨⟩, u⟩
      · exact (reset_error_iff h).mp ⟨e', u, hclient⟩
      · obtain ⟨_, s', hwrapped, hreturns⟩ := hvisible.returns u hclient
        cases hwrapped
        cases h.symm.trans hreturns
    · rintro path rfl
      rw [Option.isSome_iff_ne_none]
      intro hq
      obtain ⟨u, hclient⟩ := all_unknown bus store hq
      obtain ⟨_, _, hwrapped, -⟩ := hvisible.returns u hclient
      simp [Call.wrapped, hq] at hwrapped
  · rintro ⟨hreset, hall⟩
    -- whatever the wrapped operation throws, the client throws
    have hthrows : ∀ wrapped e s, call.wrapped t.queryStore = some wrapped →
        (wrapped.perform store).exec t.store = (.error e, s) →
        ∃ e' u, (call.perform (remote bus store)).exec t = (.error e', u) := by
      intro wrapped e s hwrapped h
      by_cases hcall : call = .reset
      · subst hcall
        cases hwrapped
        exact (reset_error_iff h).mpr (hreset rfl e s h)
      · exact remote_error bus hcall hwrapped h
    refine ⟨fun wrapped e s hwrapped h _ => hthrows wrapped e s hwrapped h, fun u hclient => ?_⟩
    cases hwrapped : call.wrapped t.queryStore with
    | some wrapped =>
      rcases h : (wrapped.perform store).exec t.store with ⟨e | ⟨⟩, s⟩
      · obtain ⟨e', u', hthrow⟩ := hthrows wrapped e s hwrapped h
        cases hthrow.symm.trans hclient
      · exact ⟨wrapped, s, rfl, h⟩
    | none =>
      cases call with
      | onQuery path operation =>
        have hq : t.queryStore path = none := Option.map_eq_none_iff.mp hwrapped
        have hother : operation ≠ .all := by
          rintro rfl
          simpa [hq] using hall path rfl
        obtain ⟨e, u', hthrow⟩ := onQuery_unknown store hunknown hq hother
        cases (Fallible.exec_bind_error hthrow).symm.trans hclient
      | add | removeApplication | reset | query => cases hwrapped

/-- A store whose requests cannot be dropped. -/
def undeletable : Store PUnit PUnit :=
  { unresettable with reset := throw (.errorResettingStore "attempt to write a readonly database") }

/-- A bus that throws a runtime error for a call without a reply. -/
def session : Bus :=
  ⟨fun _ what => what, .runtimeError "Did not receive a reply.", .error .creatingQuery ""⟩

/-- Its clients see what happens to a removal. -/
theorem failureVisible_iff_removal :
    FailureVisible session undeletable (.removeApplication "camera") exposed :=
  (failureVisible_iff undeletable (.removeApplication "camera") exposed ⟨_, _, rfl⟩).mpr
    ⟨nofun, nofun⟩

/-- A client of `reset` returns normally although no request was dropped. -/
theorem not_failureVisible_reset :
    ¬ ∀ (call : Call ObjectPath) (t : Token PUnit PUnit),
      FailureVisible session undeletable call t := by
  intro h
  have hreset : (undeletable.reset).exec ⟨⟩ =
      (.error (.errorResettingStore "attempt to write a readonly database"), ⟨⟩) := rfl
  obtain ⟨_, _, hthrows⟩ := (h .reset exposed).throws _ _ _ rfl hreset rfl
  cases hthrows

end Resolve
end TrustStore.Dbus
