import TrustStore.Dbus.Codec

/-!
# A store exposed on the bus

Models the method handlers that `Token` installs, `src/core/trust/expose.cpp`: on the root
object for the store, and on one object for each query. A handler takes a message and sends
replies to it. `bus->send` is assumed to succeed; an exception that leaves a handler ends up
in the bus, and no reply is sent in its place.
-/

namespace TrustStore.Dbus

open TrustStore.Base

/-- The names of the errors in replies; `src/core/trust/dbus/interface.h:72–148`. -/
inductive ErrorName where
  /-- `core.trust.store.error.AddingRequest` -/
  | addingRequest
  /-- `core.trust.store.error.RemovingApplication` -/
  | removingApplication
  /-- `core.trust.store.error.ResettingStore` -/
  | resettingStore
  /-- `core.trust.store.error.CreatingQuery` -/
  | creatingQuery
  /-- `core.trust.store.query.error.NoCurrentRequest` -/
  | noCurrentRequest
  deriving DecidableEq, Repr

/-- The messages sent in reply to a method call. -/
inductive Reply where
  | methodReturn (content : Message)
  | error (name : ErrorName) (what : String)
  deriving DecidableEq, Repr

/-- A store, the objects of its queries by their paths, and the replies to the call that is
being handled; `src/core/trust/expose.cpp:322–328`. -/
structure Token (σ κ : Type) where
  store : σ
  /-- the static counter of `handle_add_query` -/
  queryCounter : UInt64
  queryStore : ObjectPath → Option κ
  sent : List Reply

namespace Token

variable {σ κ : Type}

/-- A computation on the store. -/
def onStore {α : Type} (m : Action σ α) : Action (Token σ κ) α :=
  Fallible.zoom Token.store (fun t store => { t with store := store }) m

/-- `bus->send` -/
def send (reply : Reply) : Action (Token σ κ) PUnit :=
  modify fun t => { t with sent := t.sent ++ [reply] }

/-- `msg->reader() >>` -/
def read (α : Type) [Codec α] (msg : Message) : Action (Token σ κ) α :=
  Fallible.ofFn fun t => (((Codec.decode : Reader α).exec msg).1, t)

/-- A `try` block whose `catch` clause takes some exceptions: the exception, if it was taken. -/
def catching (clause : Exception → Bool) (block : Action (Token σ κ) PUnit) :
    Action (Token σ κ) (Option Exception) :=
  tryCatch (do block; return none) fun e => if clause e then return some e else throw e

/-- The clause for `Store::Errors::ErrorResettingStore`. -/
def isErrorResettingStore : Exception → Bool
  | .errorResettingStore _ => true
  | _ => false

/-- The clause for `Store::Query::Errors::NoCurrentResult`. -/
def isNoCurrentResult : Exception → Bool
  | .noCurrentResult => true
  | _ => false

variable {α : Type} {t : Token σ κ} {s : σ}

/-- The store runs as it would alone. -/
theorem onStore_exec {m : Action σ α} {r : Except Exception α} (h : m.exec t.store = (r, s)) :
    (onStore m : Action (Token σ κ) α).exec t = (r, { t with store := s }) := by
  rw [onStore, Fallible.exec_zoom, h]

/-- A reply is sent behind the others. -/
@[simp] theorem send_exec (reply : Reply) (t : Token σ κ) :
    (send reply).exec t = (.ok ⟨⟩, { t with sent := t.sent ++ [reply] }) := rfl

/-- Reading a message leaves the store alone. -/
theorem read_exec [Codec α] {msg rest : Message} {a : α}
    (h : (Codec.decode : Reader α).exec msg = (.ok a, rest)) (t : Token σ κ) :
    (read α msg).exec t = (.ok a, t) := by
  rw [read, Fallible.exec_ofFn, h]

/-- A block that ends normally. -/
theorem catching_ok {clause : Exception → Bool} {block : Action (Token σ κ) PUnit}
    {u : Token σ κ} (h : block.exec t = (.ok ⟨⟩, u)) :
    (catching clause block).exec t = (.ok none, u) := by
  simp [catching, h, Except.map]

/-- A block with an exception that is taken. -/
theorem catching_taken {clause : Exception → Bool} {block : Action (Token σ κ) PUnit}
    {u : Token σ κ} {e : Exception} (h : block.exec t = (.error e, u)) (he : clause e = true) :
    (catching clause block).exec t = (.ok (some e), u) := by
  simp [catching, h, he, Except.map]

/-- A block with an exception that is not taken. -/
theorem catching_passed {clause : Exception → Bool} {block : Action (Token σ κ) PUnit}
    {u : Token σ κ} {e : Exception} (h : block.exec t = (.error e, u)) (he : clause e = false) :
    (catching clause block).exec t = (.error e, u) := by
  simp [catching, h, he, Except.map]

/-- `query_store.insert` for a new query. The object and its query live as long as they are
stored, and the map keeps what it holds already; `src/core/trust/expose.cpp:54–60,288`. -/
def insert (store : Store σ κ) (path : ObjectPath) (query : κ) (t : Token σ κ) : Token σ κ :=
  match t.queryStore path with
  | none => { t with queryStore := fun p => if p = path then some query else t.queryStore p }
  | some _ => { t with store := store.destroy query t.store }

/-- `query_store.erase`, which drops the object and its query;
`src/core/trust/expose.cpp:62–66`. -/
def erase (store : Store σ κ) (path : ObjectPath) (t : Token σ κ) : Token σ κ :=
  match t.queryStore path with
  | none => t
  | some query =>
    { t with
      store := store.destroy query t.store
      queryStore := fun p => if p = path then none else t.queryStore p }

@[simp] theorem insert_sent (store : Store σ κ) (path : ObjectPath) (query : κ) (t : Token σ κ) :
    (insert store path query t).sent = t.sent := by
  rw [insert]
  split <;> rfl

@[simp] theorem erase_sent (store : Store σ κ) (path : ObjectPath) (t : Token σ κ) :
    (erase store path t).sent = t.sent := by
  rw [erase]
  split <;> rfl

/-- The path of the query with a number. -/
def path (number : UInt64) : ObjectPath := ⟨"/queries/" ++ toString number.toNat⟩

/-- The path for the next query. -/
def nextPath : Action (Token σ κ) ObjectPath := do
  let t ← get
  set { t with queryCounter := t.queryCounter + 1 }
  return path t.queryCounter

/-! ### The store -/

/-- A change of the store, with an error for every exception that it throws. -/
def replyOrError (name : ErrorName) (change : Action σ PUnit) : Action (Token σ κ) PUnit := do
  match ← catching Exception.isRuntimeError (onStore change) with
  | some e => send (.error name e.what)
  | none => send (.methodReturn [])

/-- `Token::handle_add`; `src/core/trust/expose.cpp:124–145`. -/
def handleAdd (store : Store σ κ) (msg : Message) : Action (Token σ κ) PUnit := do
  let request ← read Request msg
  replyOrError .addingRequest (store.add request)

/-- `Token::handle_remove_application`; `src/core/trust/expose.cpp:147–168`. -/
def handleRemoveApplication (store : Store σ κ) (msg : Message) : Action (Token σ κ) PUnit := do
  let applicationId ← read String msg
  replyOrError .removingApplication (store.removeApplication applicationId)

/-- `Token::handle_reset`, which goes on after it has sent an error;
`src/core/trust/expose.cpp:170–187`. -/
def handleReset (store : Store σ κ) : Action (Token σ κ) PUnit := do
  match ← catching isErrorResettingStore (onStore store.reset) with
  | some e => send (.error .resettingStore e.what)
  | none => pure ⟨⟩
  send (.methodReturn [])

/-- The `try` block of `Token::handle_add_query`; `src/core/trust/expose.cpp:195–292`. -/
def createQuery (store : Store σ κ) : Action (Token σ κ) PUnit := do
  let path ← nextPath
  let query ← onStore store.query
  modify (insert store path query)
  send (.methodReturn (Codec.encode path))

/-- `Token::handle_add_query`; `src/core/trust/expose.cpp:189–302`. -/
def handleAddQuery (store : Store σ κ) : Action (Token σ κ) PUnit := do
  match ← catching Exception.isRuntimeError (createQuery store) with
  | some e => send (.error .creatingQuery e.what)
  | none => return

/-- The `try` block of `Token::handle_remove_query`; `src/core/trust/expose.cpp:308–312`. -/
def removeQuery (store : Store σ κ) (msg : Message) : Action (Token σ κ) PUnit := do
  let path ← read ObjectPath msg
  modify (erase store path)
  send (.methodReturn [])

/-- `Token::handle_remove_query`, which replies once more after its `try` block;
`src/core/trust/expose.cpp:304–320`. -/
def handleRemoveQuery (store : Store σ κ) (msg : Message) : Action (Token σ κ) PUnit := do
  let _ ← catching (fun _ => true) (removeQuery store msg)
  send (.methodReturn [])

private theorem nextPath_exec (t : Token σ κ) : (nextPath : Action (Token σ κ) ObjectPath).exec t =
    (.ok (path t.queryCounter), { t with queryCounter := t.queryCounter + 1 }) := rfl

/-- A change that is made is replied to with a return. -/
theorem replyOrError_ok {name : ErrorName} {change : Action σ PUnit}
    (h : change.exec t.store = (.ok ⟨⟩, s)) :
    (replyOrError name change).exec t =
      (.ok ⟨⟩, { t with store := s, sent := t.sent ++ [.methodReturn []] }) :=
  Fallible.exec_bind_ok (catching_ok (onStore_exec h))

/-- A change that throws is replied to with an error. -/
theorem replyOrError_error {name : ErrorName} {change : Action σ PUnit} {e : Exception}
    (h : change.exec t.store = (.error e, s)) (he : e.isRuntimeError = true) :
    (replyOrError name change).exec t =
      (.ok ⟨⟩, { t with store := s, sent := t.sent ++ [.error name e.what] }) :=
  Fallible.exec_bind_ok (catching_taken (onStore_exec h) he)

/-- A reset is replied to with a return. -/
theorem handleReset_ok {store : Store σ κ} (h : store.reset.exec t.store = (.ok ⟨⟩, s)) :
    (handleReset store).exec t =
      (.ok ⟨⟩, { t with store := s, sent := t.sent ++ [.methodReturn []] }) :=
  Fallible.exec_bind_ok (catching_ok (onStore_exec h))

/-- An `ErrorResettingStore` is replied to twice. -/
theorem handleReset_taken {store : Store σ κ} {e : Exception}
    (h : store.reset.exec t.store = (.error e, s)) (he : isErrorResettingStore e = true) :
    (handleReset store).exec t = (.ok ⟨⟩, { t with
      store := s
      sent := t.sent ++ [.error .resettingStore e.what] ++ [.methodReturn []] }) :=
  Fallible.exec_bind_ok (catching_taken (onStore_exec h) he)

/-- Any other exception of a reset is not replied to. -/
theorem handleReset_passed {store : Store σ κ} {e : Exception}
    (h : store.reset.exec t.store = (.error e, s)) (he : isErrorResettingStore e = false) :
    (handleReset store).exec t = (.error e, { t with store := s }) :=
  Fallible.exec_bind_error (catching_passed (onStore_exec h) he)

/-- A query that is created gets the next path. -/
theorem handleAddQuery_ok {store : Store σ κ} {query : κ}
    (h : store.query.exec t.store = (.ok query, s)) :
    (handleAddQuery store).exec t =
      (.ok ⟨⟩, { insert store (path t.queryCounter) query
          { t with store := s, queryCounter := t.queryCounter + 1 } with
        sent := t.sent ++ [.methodReturn (Codec.encode (path t.queryCounter))] }) := by
  have hquery := onStore_exec (t := { t with queryCounter := t.queryCounter + 1 }) h
  have hblock : (createQuery store).exec t = (.ok ⟨⟩,
      { insert store (path t.queryCounter) query
          { t with store := s, queryCounter := t.queryCounter + 1 } with
        sent := t.sent ++ [.methodReturn (Codec.encode (path t.queryCounter))] }) := by
    rw [createQuery, Fallible.exec_bind_ok (nextPath_exec t), Fallible.exec_bind_ok hquery,
      Fallible.exec_bind_ok (Fallible.exec_modify _ _), send_exec, insert_sent]
  rw [handleAddQuery, Fallible.exec_bind_ok (catching_ok hblock)]
  rfl

/-- A query that cannot be created uses up its path. -/
theorem handleAddQuery_error {store : Store σ κ} {e : Exception}
    (h : store.query.exec t.store = (.error e, s)) (he : e.isRuntimeError = true) :
    (handleAddQuery store).exec t =
      (.ok ⟨⟩, { t with
        store := s
        queryCounter := t.queryCounter + 1
        sent := t.sent ++ [.error .creatingQuery e.what] }) := by
  have hquery := onStore_exec (t := { t with queryCounter := t.queryCounter + 1 }) h
  have hblock : (createQuery store).exec t =
      (.error e, { t with store := s, queryCounter := t.queryCounter + 1 }) := by
    rw [createQuery, Fallible.exec_bind_ok (nextPath_exec t), Fallible.exec_bind_error hquery]
  rw [handleAddQuery, Fallible.exec_bind_ok (catching_taken hblock he)]
  rfl

/-- Any other exception of `query` is not replied to. -/
theorem handleAddQuery_passed {store : Store σ κ} {e : Exception}
    (h : store.query.exec t.store = (.error e, s)) (he : e.isRuntimeError = false) :
    (handleAddQuery store).exec t =
      (.error e, { t with store := s, queryCounter := t.queryCounter + 1 }) := by
  have hquery := onStore_exec (t := { t with queryCounter := t.queryCounter + 1 }) h
  have hblock : (createQuery store).exec t =
      (.error e, { t with store := s, queryCounter := t.queryCounter + 1 }) := by
    rw [createQuery, Fallible.exec_bind_ok (nextPath_exec t), Fallible.exec_bind_error hquery]
  rw [handleAddQuery, Fallible.exec_bind_error (catching_passed hblock he)]

/-- Removing a query is replied to twice. -/
theorem handleRemoveQuery_exec {store : Store σ κ} {msg rest : Message} {path : ObjectPath}
    (h : (Codec.decode : Reader ObjectPath).exec msg = (.ok path, rest)) (t : Token σ κ) :
    (handleRemoveQuery store msg).exec t =
      (.ok ⟨⟩, { erase store path t with
        sent := t.sent ++ [.methodReturn []] ++ [.methodReturn []] }) := by
  have hblock : (removeQuery store msg).exec t =
      (.ok ⟨⟩, { erase store path t with sent := t.sent ++ [.methodReturn []] }) := by
    rw [removeQuery, Fallible.exec_bind_ok (read_exec h t),
      Fallible.exec_bind_ok (Fallible.exec_modify _ _), send_exec, erase_sent]
  rw [handleRemoveQuery, Fallible.exec_bind_ok (catching_ok hblock), send_exec]

/-! ### Queries -/

/-- A change of a query, with a reply once it is made. -/
def replyAfter (change : Action σ PUnit) : Action (Token σ κ) PUnit := do
  onStore change
  send (.methodReturn [])

/-- A change that is made is replied to. -/
theorem replyAfter_ok {change : Action σ PUnit} (h : change.exec t.store = (.ok ⟨⟩, s)) :
    (replyAfter change).exec t =
      (.ok ⟨⟩, { t with store := s, sent := t.sent ++ [.methodReturn []] }) := by
  rw [replyAfter, Fallible.exec_bind_ok (onStore_exec h), send_exec]

/-- A change that throws is not replied to. -/
theorem replyAfter_error {change : Action σ PUnit} {e : Exception}
    (h : change.exec t.store = (.error e, s)) :
    (replyAfter change).exec t = (.error e, { t with store := s }) := by
  rw [replyAfter, Fallible.exec_bind_error (onStore_exec h)]

/-- The handler for `All`; `src/core/trust/expose.cpp:199–205`. -/
def handleAll (store : Store σ κ) (query : κ) : Action (Token σ κ) PUnit :=
  replyAfter (store.all query)

/-- A question to a query, with its answer as the reply. -/
def replyWith {α : Type} [Codec α] (question : Action σ α) : Action (Token σ κ) PUnit := do
  let answer ← onStore question
  send (.methodReturn (Codec.encode answer))

/-- An answer is sent. -/
theorem replyWith_ok [Codec α] {question : Action σ α} {a : α}
    (h : question.exec t.store = (.ok a, s)) :
    (replyWith question).exec t =
      (.ok ⟨⟩, { t with store := s, sent := t.sent ++ [.methodReturn (Codec.encode a)] }) := by
  rw [replyWith, Fallible.exec_bind_ok (onStore_exec h), send_exec]

/-- Without an answer nothing is sent. -/
theorem replyWith_error [Codec α] {question : Action σ α} {e : Exception}
    (h : question.exec t.store = (.error e, s)) :
    (replyWith question).exec t = (.error e, { t with store := s }) := by
  rw [replyWith, Fallible.exec_bind_error (onStore_exec h)]

/-- The handler for `Current`; `src/core/trust/expose.cpp:206–223`. -/
def handleCurrent (store : Store σ κ) (query : κ) : Action (Token σ κ) PUnit := do
  match ← catching isNoCurrentResult (replyWith (store.current query)) with
  | some e => send (.error .noCurrentRequest e.what)
  | none => return

/-- The current request is sent. -/
theorem handleCurrent_ok {store : Store σ κ} {query : κ} {request : Request}
    (h : (store.current query).exec t.store = (.ok request, s)) :
    (handleCurrent store query).exec t =
      (.ok ⟨⟩, { t with store := s, sent := t.sent ++ [.methodReturn (Codec.encode request)] }) :=
  Fallible.exec_bind_ok (catching_ok (replyWith_ok h))

/-- A `NoCurrentResult` is replied to with an error. -/
theorem handleCurrent_taken {store : Store σ κ} {query : κ}
    (h : (store.current query).exec t.store = (.error .noCurrentResult, s)) :
    (handleCurrent store query).exec t = (.ok ⟨⟩, { t with
      store := s
      sent := t.sent ++ [.error .noCurrentRequest Exception.noCurrentResult.what] }) :=
  Fallible.exec_bind_ok (catching_taken (replyWith_error h) rfl)

/-- Any other exception of `current` is not replied to. -/
theorem handleCurrent_passed {store : Store σ κ} {query : κ} {e : Exception}
    (h : (store.current query).exec t.store = (.error e, s)) (he : isNoCurrentResult e = false) :
    (handleCurrent store query).exec t = (.error e, { t with store := s }) :=
  Fallible.exec_bind_error (catching_passed (replyWith_error h) he)

/-- The handler for `Erase`; `src/core/trust/expose.cpp:224–230`. -/
def handleErase (store : Store σ κ) (query : κ) : Action (Token σ κ) PUnit :=
  replyAfter (store.erase query)

/-- The handler for `Execute`; `src/core/trust/expose.cpp:231–237`. -/
def handleExecute (store : Store σ κ) (query : κ) : Action (Token σ κ) PUnit :=
  replyAfter (store.execute query)

/-- The handler for `ForAnswer`; `src/core/trust/expose.cpp:238–245`. -/
def handleForAnswer (store : Store σ κ) (query : κ) (msg : Message) :
    Action (Token σ κ) PUnit := do
  replyAfter (store.forAnswer query (← read Answer msg))

/-- The handler for `ForApplicationId`; `src/core/trust/expose.cpp:246–253`. -/
def handleForApplicationId (store : Store σ κ) (query : κ) (msg : Message) :
    Action (Token σ κ) PUnit := do
  replyAfter (store.forApplicationId query (← read String msg))

/-- The handler for `ForFeature`; `src/core/trust/expose.cpp:254–261`. -/
def handleForFeature (store : Store σ κ) (query : κ) (msg : Message) :
    Action (Token σ κ) PUnit := do
  replyAfter (store.forFeature query (← read Feature msg))

/-- The handler for `ForInterval`; `src/core/trust/expose.cpp:262–273`. -/
def handleForInterval (store : Store σ κ) (query : κ) (msg : Message) :
    Action (Token σ κ) PUnit := do
  let interval ← read (Int64 × Int64) msg
  replyAfter (store.forInterval query interval.1 interval.2)

/-- The handler for `Next`; `src/core/trust/expose.cpp:274–280`. -/
def handleNext (store : Store σ κ) (query : κ) : Action (Token σ κ) PUnit :=
  replyAfter (store.next query)

/-- The handler for `Status`; `src/core/trust/expose.cpp:281–286`. -/
def handleStatus (store : Store σ κ) (query : κ) : Action (Token σ κ) PUnit :=
  replyWith (store.status query)

/-! ### Dispatch -/

/-- The methods of `core.trust.Store.Query`; `src/core/trust/dbus/interface.h:150–339`. -/
inductive QueryMethod where
  | all
  | current
  | erase
  | execute
  | forAnswer
  | forApplicationId
  | forFeature
  | forInterval
  | next
  | status
  deriving DecidableEq, Repr

/-- The methods of `core.trust.Store`, and those of the object of a query. -/
inductive Method (κ : Type) where
  | add
  | removeApplication
  | reset
  | addQuery
  | removeQuery
  | onQuery (query : κ) (method : QueryMethod)

/-- The handlers of the object of a query; `src/core/trust/expose.cpp:199–286`. -/
def handleQuery (store : Store σ κ) (query : κ) (msg : Message) :
    QueryMethod → Action (Token σ κ) PUnit
  | .all => handleAll store query
  | .current => handleCurrent store query
  | .erase => handleErase store query
  | .execute => handleExecute store query
  | .forAnswer => handleForAnswer store query msg
  | .forApplicationId => handleForApplicationId store query msg
  | .forFeature => handleForFeature store query msg
  | .forInterval => handleForInterval store query msg
  | .next => handleNext store query
  | .status => handleStatus store query

/-- The handlers installed by `Token::Token` and by `handle_add_query`;
`src/core/trust/expose.cpp:82–105`. -/
def handle (store : Store σ κ) (msg : Message) : Method κ → Action (Token σ κ) PUnit
  | .add => handleAdd store msg
  | .removeApplication => handleRemoveApplication store msg
  | .reset => handleReset store
  | .addQuery => handleAddQuery store
  | .removeQuery => handleRemoveQuery store msg
  | .onQuery query method => handleQuery store query msg method

end Token
end TrustStore.Dbus
