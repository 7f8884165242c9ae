import TrustStore.Core.Clients
import TrustStore.Dbus.Expose

/-!
# A store resolved on the bus

Models the store of a client, `src/core/trust/resolve.cpp`: every operation is a method call
that waits for its reply. The bus serialises the calls, takes the first reply of a handler for
the reply to the call and drops the others. What dbus-cpp does otherwise is left open.
-/

namespace TrustStore.Dbus

open TrustStore.Base

/-- What a client sees of the bus besides the replies of the service. -/
structure Bus where
  /-- `core::dbus::Error::print` -/
  print : ErrorName → String → String
  /-- the exception of a call without a reply -/
  noReply : Exception
  /-- the reply to a call on an object that does not exist -/
  unknownObject : Reply

namespace Resolve

variable {σ κ : Type} (bus : Bus) (store : Store σ κ)

/-- `invoke_method_synchronously` for the method of a handler. -/
def invoke (handler : Action (Token σ κ) PUnit) : Action (Token σ κ) Reply :=
  Fallible.ofFn fun t =>
    let u := (handler.exec { t with sent := [] }).2
    match u.sent with
    | [] => (.error bus.noReply, { u with sent := [] })
    | reply :: _ => (.ok reply, { u with sent := [] })

/-- A call on the object of a query, which the service finds by its path. -/
def invokeOn (path : ObjectPath) (method : Token.QueryMethod) (msg : Message) :
    Action (Token σ κ) Reply :=
  invoke bus do
    match (← get).queryStore path with
    | some query => Token.handle store msg (.onQuery query method)
    | none => Token.send bus.unknownObject

/-- The contents of a reply, where an error is thrown as a `std::runtime_error`. -/
def value : Reply → Action (Token σ κ) Message
  | .methodReturn content => return content
  | .error name what => throw (.runtimeError (bus.print name what))

/-- The service between two calls, with a new state of the store. -/
def idle (t : Token σ κ) (s : σ) : Token σ κ := { t with store := s, sent := [] }

section

variable {store} {t u : Token σ κ} {handler : Action (Token σ κ) PUnit} {r : Except Exception PUnit}
  {reply : Reply} {rest : List Reply}

/-- The first reply of the handler is the reply to the call. -/
theorem invoke_exec (h : handler.exec { t with sent := [] } = (r, u))
    (hsent : u.sent = reply :: rest) :
    (invoke bus handler).exec t = (.ok reply, { u with sent := [] }) := by
  simp [invoke, h, hsent]

/-- A handler without a reply leaves the call without one. -/
theorem invoke_noReply (h : handler.exec { t with sent := [] } = (r, u)) (hsent : u.sent = []) :
    (invoke bus handler).exec t = (.error bus.noReply, { u with sent := [] }) := by
  simp [invoke, h, hsent]

/-- A call on a query that exists is handled. -/
theorem invokeOn_exec {path : ObjectPath} {query : κ} (method : Token.QueryMethod)
    (msg : Message) (hq : t.queryStore path = some query)
    (h : (Token.handle store msg (.onQuery query method)).exec { t with sent := [] } = (r, u))
    (hsent : u.sent = reply :: rest) :
    (invokeOn bus store path method msg).exec t = (.ok reply, { u with sent := [] }) := by
  refine invoke_exec bus (r := r) ?_ hsent
  rw [Fallible.exec_bind_ok (Fallible.exec_get _), hq]
  exact h

/-- A call on a query that exists may stay without a reply. -/
theorem invokeOn_noReply {path : ObjectPath} {query : κ} (method : Token.QueryMethod)
    (msg : Message) (hq : t.queryStore path = some query)
    (h : (Token.handle store msg (.onQuery query method)).exec { t with sent := [] } = (r, u))
    (hsent : u.sent = []) :
    (invokeOn bus store path method msg).exec t = (.error bus.noReply, { u with sent := [] }) := by
  refine invoke_noReply bus (r := r) ?_ hsent
  rw [Fallible.exec_bind_ok (Fallible.exec_get _), hq]
  exact h

end

/-! ### The store -/

/-- `Store::add`; `src/core/trust/resolve.cpp:187–196`. -/
def add (request : Request) : Action (Token σ κ) PUnit := do
  let response ← invoke bus (Token.handle store (Codec.encode request) .add)
  let _ ← value bus response

/-- `Store::remove_application`; `src/core/trust/resolve.cpp:198–207`. -/
def removeApplication (id : String) : Action (Token σ κ) PUnit := do
  let response ← invoke bus (Token.handle store (Codec.encode id) .removeApplication)
  let _ ← value bus response

/-- The `try` block of `Store::reset`; `src/core/trust/resolve.cpp:211–222`. -/
def tryReset : Action (Token σ κ) PUnit := do
  let response ← invoke bus (Token.handle store [] .reset)
  let _ ← value bus response

/-- `Store::reset`, which only prints what went wrong; `src/core/trust/resolve.cpp:209–226`. -/
def reset : Action (Token σ κ) PUnit :=
  tryCatch (tryReset bus store) fun e => if e.isRuntimeError then pure ⟨⟩ else throw e

/-- `Store::query`; `src/core/trust/resolve.cpp:228–247`. -/
def query : Action (Token σ κ) ObjectPath := do
  let result ← invoke bus (Token.handle store [] .addQuery)
  Token.read ObjectPath (← value bus result)

/-! ### Queries -/

/-- `Query::~Query`; `src/core/trust/resolve.cpp:84–92`. -/
def destroy (path : ObjectPath) (t : Token σ κ) : Token σ κ :=
  ((invoke bus (Token.handle store (Codec.encode path) .removeQuery)).exec t).2

/-- `Query::all`, which ignores the reply; `src/core/trust/resolve.cpp:94–97`. -/
def all (path : ObjectPath) : Action (Token σ κ) PUnit := do
  let _ ← invokeOn bus store path .all []

/-- `Query::current`; `src/core/trust/resolve.cpp:99–111`. -/
def current (path : ObjectPath) : Action (Token σ κ) Request := do
  match ← invokeOn bus store path .current [] with
  | .error _ _ => throw .noCurrentResult
  | .methodReturn content => Token.read Request content

/-- A change of a query, which throws the error that is replied. -/
def change (path : ObjectPath) (method : Token.QueryMethod) (msg : Message) :
    Action (Token σ κ) PUnit := do
  let result ← invokeOn bus store path method msg
  let _ ← value bus result

/-- `Query::erase`; `src/core/trust/resolve.cpp:113–119`. -/
def erase (path : ObjectPath) : Action (Token σ κ) PUnit := change bus store path .erase []

/-- `Query::execute`; `src/core/trust/resolve.cpp:121–127`. -/
def execute (path : ObjectPath) : Action (Token σ κ) PUnit := change bus store path .execute []

/-- `Query::for_answer`; `src/core/trust/resolve.cpp:129–135`. -/
def forAnswer (path : ObjectPath) (answer : Answer) : Action (Token σ κ) PUnit :=
  change bus store path .forAnswer (Codec.encode answer)

/-- `Query::for_application_id`; `src/core/trust/resolve.cpp:137–143`. -/
def forApplicationId (path : ObjectPath) (id : String) : Action (Token σ κ) PUnit :=
  change bus store path .forApplicationId (Codec.encode id)

/-- `Query::for_feature`; `src/core/trust/resolve.cpp:145–151`. -/
def forFeature (path : ObjectPath) (feature : Feature) : Action (Token σ κ) PUnit :=
  change bus store path .forFeature (Codec.encode feature)

/-- `Query::for_interval`; `src/core/trust/resolve.cpp:153–164`. -/
def forInterval (path : ObjectPath) (first last : Timestamp) : Action (Token σ κ) PUnit :=
  change bus store path .forInterval (Codec.encode ((first, last) : Int64 × Int64))

/-- `Query::next`; `src/core/trust/resolve.cpp:166–172`. -/
def next (path : ObjectPath) : Action (Token σ κ) PUnit := change bus store path .next []

/-- `Query::status`; `src/core/trust/resolve.cpp:174–184`. -/
def status (path : ObjectPath) : Action (Token σ κ) Status := do
  let result ← invokeOn bus store path .status []
  Token.read Status (← value bus result)

/-- `detail::Store` with its queries, for the store that a token exposes. -/
def remote : Store (Token σ κ) ObjectPath where
  reset := reset bus store
  add := add bus store
  removeApplication := removeApplication bus store
  query := query bus store
  destroy := destroy bus store
  status := status bus store
  forApplicationId := forApplicationId bus store
  forFeature := forFeature bus store
  forInterval := forInterval bus store
  forAnswer := forAnswer bus store
  all := all bus store
  execute := execute bus store
  next := next bus store
  erase := erase bus store
  current := current bus store

/-! ### Operations that go well -/

variable {bus} {store} {t : Token σ κ} {s : σ} {path : ObjectPath} {q : κ}

/-- A change that is made remotely. -/
private theorem change_ok {method : Token.QueryMethod} {msg : Message} {m : Action σ PUnit}
    (hq : t.queryStore path = some q)
    (hhandle : (Token.handle store msg (.onQuery q method)).exec { t with sent := [] } =
      (Token.replyAfter m).exec { t with sent := [] })
    (h : m.exec t.store = (.ok ⟨⟩, s)) :
    (change bus store path method msg).exec t = (.ok ⟨⟩, idle t s) := by
  have hinvoke := invokeOn_exec bus method msg hq (hhandle.trans (Token.replyAfter_ok h)) rfl
  rw [change, Fallible.exec_bind_ok hinvoke]
  rfl

/-- An operation on a query returns what it returns locally. -/
theorem remote_onQuery {operation : QueryOperation} {r : Returned}
    (hq : t.queryStore path = some q)
    (h : (store.onQuery q operation).exec t.store = (.ok r, s)) :
    ((remote bus store).onQuery path operation).exec t = (.ok r, idle t s) := by
  cases operation with
  | all =>
    obtain ⟨_, _, hm, hr⟩ := Fallible.exec_bind_eq_ok h
    cases hr
    have hinvoke := invokeOn_exec bus .all [] hq
      (Token.replyAfter_ok hm) rfl
    exact Fallible.exec_bind_ok (Fallible.exec_bind_ok hinvoke)
  | forApplicationId id =>
    obtain ⟨_, _, hm, hr⟩ := Fallible.exec_bind_eq_ok h
    cases hr
    have hread := Token.read_exec (decode_encode id) { t with sent := [] }
    exact Fallible.exec_bind_ok (change_ok hq (Fallible.exec_bind_ok hread) hm)
  | forFeature feature =>
    obtain ⟨_, _, hm, hr⟩ := Fallible.exec_bind_eq_ok h
    cases hr
    have hread := Token.read_exec (decode_encode feature) { t with sent := [] }
    exact Fallible.exec_bind_ok (change_ok hq (Fallible.exec_bind_ok hread) hm)
  | forInterval first last =>
    obtain ⟨_, _, hm, hr⟩ := Fallible.exec_bind_eq_ok h
    cases hr
    have hread := Token.read_exec (decode_encode ((first, last) : Int64 × Int64))
      { t with sent := [] }
    exact Fallible.exec_bind_ok (change_ok hq (Fallible.exec_bind_ok hread) hm)
  | forAnswer answer =>
    obtain ⟨_, _, hm, hr⟩ := Fallible.exec_bind_eq_ok h
    cases hr
    have hread := Token.read_exec (decode_encode answer) { t with sent := [] }
    exact Fallible.exec_bind_ok (change_ok hq (Fallible.exec_bind_ok hread) hm)
  | execute =>
    obtain ⟨_, _, hm, hr⟩ := Fallible.exec_bind_eq_ok h
    cases hr
    exact Fallible.exec_bind_ok (change_ok hq rfl hm)
  | next =>
    obtain ⟨_, _, hm, hr⟩ := Fallible.exec_bind_eq_ok h
    cases hr
    exact Fallible.exec_bind_ok (change_ok hq rfl hm)
  | erase =>
    obtain ⟨_, _, hm, hr⟩ := Fallible.exec_bind_eq_ok h
    cases hr
    exact Fallible.exec_bind_ok (change_ok hq rfl hm)
  | current =>
    obtain ⟨request, _, hm, hr⟩ := Fallible.exec_bind_eq_ok h
    cases hr
    have hinvoke := invokeOn_exec bus .current [] hq
      (Token.handleCurrent_ok hm) rfl
    have hread := Token.read_exec (decode_encode request) (idle t s)
    exact Fallible.exec_bind_ok ((Fallible.exec_bind_ok hinvoke).trans hread)
  | status =>
    obtain ⟨status, _, hm, hr⟩ := Fallible.exec_bind_eq_ok h
    cases hr
    have hinvoke := invokeOn_exec bus .status [] hq
      (Token.replyWith_ok hm) rfl
    have hread := Token.read_exec (decode_encode status) (idle t s)
    exact Fallible.exec_bind_ok ((Fallible.exec_bind_ok hinvoke).trans hread)

/-- A `NoCurrentResult` of `current` is raised at the client, too. -/
theorem remote_onQuery_noCurrentResult (hq : t.queryStore path = some q)
    (h : (store.current q).exec t.store = (.error .noCurrentResult, s)) :
    ((remote bus store).onQuery path .current).exec t = (.error .noCurrentResult, idle t s) := by
  have hinvoke := invokeOn_exec bus .current [] hq
    (Token.handleCurrent_taken h) rfl
  exact Fallible.exec_bind_error (Fallible.exec_bind_ok hinvoke)

/-- The handler of an addition adds the request that was sent. -/
theorem handle_add (store : Store σ κ) (request : Request) (u : Token σ κ) :
    (Token.handle store (Codec.encode request) .add).exec u =
      (Token.replyOrError .addingRequest (store.add request)).exec u :=
  Fallible.exec_bind_ok (Token.read_exec (decode_encode request) u)

/-- The handler of a removal removes the application that was sent. -/
theorem handle_removeApplication (store : Store σ κ) (id : String) (u : Token σ κ) :
    (Token.handle store (Codec.encode id) .removeApplication).exec u =
      (Token.replyOrError .removingApplication (store.removeApplication id)).exec u :=
  Fallible.exec_bind_ok (Token.read_exec (decode_encode id) u)

/-- A request is added as it would be locally. -/
theorem add_ok {request : Request} (h : (store.add request).exec t.store = (.ok ⟨⟩, s)) :
    (add bus store request).exec t = (.ok ⟨⟩, idle t s) := by
  have hhandle := handle_add store request { t with sent := [] }
  rw [Token.replyOrError_ok (t := { t with sent := [] }) h] at hhandle
  exact Fallible.exec_bind_ok (invoke_exec bus hhandle rfl)

/-- An application is removed as it would be locally. -/
theorem removeApplication_ok {id : String}
    (h : (store.removeApplication id).exec t.store = (.ok ⟨⟩, s)) :
    (removeApplication bus store id).exec t = (.ok ⟨⟩, idle t s) := by
  have hhandle := handle_removeApplication store id { t with sent := [] }
  rw [Token.replyOrError_ok (t := { t with sent := [] }) h] at hhandle
  exact Fallible.exec_bind_ok (invoke_exec bus hhandle rfl)

/-- The store is reset as it would be locally. -/
theorem reset_ok (h : store.reset.exec t.store = (.ok ⟨⟩, s)) :
    (reset bus store).exec t = (.ok ⟨⟩, idle t s) := by
  have hhandle := Token.handleReset_ok (t := { t with sent := [] }) h
  have htry : (tryReset bus store).exec t = (.ok ⟨⟩, idle t s) :=
    Fallible.exec_bind_ok (invoke_exec bus hhandle rfl)
  rw [reset, Fallible.exec_tryCatch, htry]

/-- A query is made under the next path, if no object is there. -/
theorem query_ok (h : store.query.exec t.store = (.ok q, s))
    (hfree : t.queryStore (Token.path t.queryCounter) = none) :
    (query bus store).exec t = (.ok (Token.path t.queryCounter), { idle t s with
      queryCounter := t.queryCounter + 1
      queryStore := fun p =>
        if p = Token.path t.queryCounter then some q else t.queryStore p }) := by
  have hhandle := Token.handleAddQuery_ok (t := { t with sent := [] }) h
  have hinvoke := invoke_exec bus hhandle rfl
  simp only [Token.insert, hfree] at hinvoke
  exact Fallible.exec_bind_ok hinvoke

/-- A query is destroyed as it would be locally, and its object goes with it. -/
theorem destroy_of_some (hq : t.queryStore path = some q) :
    destroy bus store path t = { idle t (store.destroy q t.store) with
      queryStore := fun p => if p = path then none else t.queryStore p } := by
  have hhandle : (Token.handle store (Codec.encode path) .removeQuery).exec { t with sent := [] } =
      _ := Token.handleRemoveQuery_exec (decode_encode path) { t with sent := [] }
  rw [destroy, invoke_exec bus hhandle rfl]
  simp only [Token.erase, hq]
  rfl

end Resolve
end TrustStore.Dbus
