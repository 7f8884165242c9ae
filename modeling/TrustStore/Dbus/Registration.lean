import TrustStore.Dbus.AgentRegistry

/-!
# Registrations that do not complete

The handler for `RegisterAgentForUser`, `src/core/trust/dbus/agent_registry.h:263–321`, with a
registry that may refuse an agent and a bus that may fail to send the reply. The handler takes the
agent of the user out of the registry when the reply is not sent, whatever the reply is and whoever
registered that agent.
-/

namespace TrustStore.Dbus.AgentRegistry.Skeleton

open TrustStore.Base

/-- The call that the handler is given: its sender and its arguments;
`src/core/trust/dbus/agent_registry.h:265–270`. -/
structure RegisterAgentForUser where
  sender : String
  uid : Uid
  path : String
  deriving DecidableEq, Repr

/-- The agent that the call announces; `src/core/trust/dbus/agent_registry.h:268–279`. -/
def RegisterAgentForUser.agent (call : RegisterAgentForUser) : AgentStub := ⟨call.sender, call.path⟩

/-- The replies to a call. -/
inductive Reply where
  | methodReturn
  | error (name description : String)
  deriving DecidableEq, Repr

/-- `AgentRegistry::Errors::CouldNotRegisterAgentForUser`;
`src/core/trust/dbus/agent_registry.h:94–100`. -/
def couldNotRegisterAgentForUser : String :=
  "core.trust.dbus.AgentRegistry.CouldNotRegisterAgentForUser"

/-- What the handler depends on: the registry behind the skeleton refuses some agents by an
exception, and the bus sends some replies. -/
structure Environment where
  refuses : LockingAgentRegistry AgentStub → Uid → AgentStub → Option Exception
  send : Reply → Except Exception Unit

/-- `configuration.impl.register_agent_for_user`: a `LockingAgentRegistry`, unless it refuses. -/
def Environment.registerAgentForUser (env : Environment) (uid : Uid) (agent : AgentStub) :
    Action (LockingAgentRegistry AgentStub) Unit := do
  let registry ← get
  match env.refuses registry uid agent with
  | some e => throw e
  | none => set (registry.registerAgentForUser uid agent)

/-- The handler for `RegisterAgentForUser`; `src/core/trust/dbus/agent_registry.h:263–321`. -/
def onRegisterAgentForUser (env : Environment) (call : RegisterAgentForUser) :
    Action (LockingAgentRegistry AgentStub) Unit := do
  let reply ← tryCatch
    (do
      env.registerAgentForUser call.uid call.agent
      return Reply.methodReturn)
    fun _ => return Reply.error couldNotRegisterAgentForUser ""
  tryCatch (Fallible.ofFn fun registry => (env.send reply, registry))
    fun _ => modify fun registry => registry.unregisterAgentForUser call.uid

variable (env : Environment) (registry : LockingAgentRegistry AgentStub)
  (call : RegisterAgentForUser)

/-- The reply of the handler. -/
def replyTo : Reply :=
  match env.refuses registry call.uid call.agent with
  | some _ => .error couldNotRegisterAgentForUser ""
  | none => .methodReturn

/-- The registry once its agent was registered, or refused. -/
def attempted : LockingAgentRegistry AgentStub :=
  match env.refuses registry call.uid call.agent with
  | some _ => registry
  | none => registry.registerAgentForUser call.uid call.agent

/-- The registry after the handler, which never throws. -/
def after : LockingAgentRegistry AgentStub :=
  ((onRegisterAgentForUser env call).exec registry).2

/-- The call ends with a method return that is sent. -/
def Completes : Prop :=
  env.refuses registry call.uid call.agent = none ∧ env.send .methodReturn = .ok ()

instance : Decidable (Completes env registry call) :=
  match hrefuses : env.refuses registry call.uid call.agent, hsend : env.send .methodReturn with
  | none, .ok () => isTrue ⟨hrefuses, hsend⟩
  | some _, _ => isFalse fun h => Option.some_ne_none _ (hrefuses.symm.trans h.1)
  | none, .error _ => isFalse fun h => by cases hsend.symm.trans h.2

/-- A call that completes registers its agent and nothing else, and any other call changes
nothing. -/
def AllOrNothing : Prop :=
  after env registry call =
    if Completes env registry call then registry.registerAgentForUser call.uid call.agent
    else registry

/-- What the handler does: it returns, and takes the agent of the user out if its reply is not
sent. -/
theorem onRegisterAgentForUser_exec : (onRegisterAgentForUser env call).exec registry =
    (.ok (), match env.send (replyTo env registry call) with
      | .ok _ => attempted env registry call
      | .error _ => registry.unregisterAgentForUser call.uid) := by
  have hunregister : ∀ agent, LockingAgentRegistry.unregisterAgentForUser
      (registry.registerAgentForUser call.uid agent) call.uid =
        registry.unregisterAgentForUser call.uid :=
    fun agent => Function.update_idem _ _ _
  rw [onRegisterAgentForUser]
  cases hrefuses : env.refuses registry call.uid call.agent with
  | some e =>
    simp only [replyTo, attempted, hrefuses]
    cases hsend : env.send (.error couldNotRegisterAgentForUser "") <;>
      simp [Environment.registerAgentForUser, hrefuses, hsend]
  | none =>
    simp only [replyTo, attempted, hrefuses]
    cases hsend : env.send .methodReturn <;>
      simp [Environment.registerAgentForUser, Except.map, hrefuses, hsend, hunregister]

/-- With a registry that refuses nobody the handler is the one of the runs of registrations. -/
theorem after_eq_handle (hrefuses : ∀ registry uid agent, env.refuses registry uid agent = none)
    (stub : StubId) : after env registry call =
      handle registry ⟨stub, call.sender, .registerAgentForUser call.path, call.uid⟩
        (env.send .methodReturn).isOk := by
  rw [after, onRegisterAgentForUser_exec, replyTo, attempted, hrefuses]
  cases hsend : env.send .methodReturn with
  | ok value => simp [handle, Call.announces, RegisterAgentForUser.agent, Except.isOk,
      Except.toBool]
  | error e =>
    simp [handle, Call.announces, Except.isOk, Except.toBool,
      LockingAgentRegistry.unregisterAgentForUser, LockingAgentRegistry.registerAgentForUser]

/-- A registration is all or nothing exactly if its reply is sent, or no agent was registered for
the user before. -/
theorem allOrNothing_iff : AllOrNothing env registry call ↔
    (∃ value, env.send (replyTo env registry call) = .ok value) ∨ registry call.uid = none := by
  have hkept : registry.unregisterAgentForUser call.uid = registry ↔ registry call.uid = none :=
    Function.update_eq_self_iff.trans eq_comm
  rw [AllOrNothing, after, onRegisterAgentForUser_exec]
  cases hsend : env.send (replyTo env registry call) with
  | ok value =>
    refine iff_of_true ?_ (.inl ⟨value, rfl⟩)
    rw [replyTo] at hsend
    rw [attempted]
    cases hrefuses : env.refuses registry call.uid call.agent with
    | some e => simp [Completes, hrefuses]
    | none =>
      rw [hrefuses] at hsend
      simp [Completes, hrefuses, hsend]
  | error e =>
    have hfails : ¬Completes env registry call := by
      rintro ⟨hrefuses, hreturn⟩
      rw [replyTo, hrefuses, hreturn] at hsend
      cases hsend
    rw [if_neg hfails, hkept]
    simp

/-- An agent of the user 1000. -/
def firstAgent : RegisterAgentForUser := ⟨":1.5", ⟨1000⟩, "/core/trust/dbus/Agent/0"⟩

/-- Another agent of the user. -/
def secondAgent : RegisterAgentForUser := ⟨":1.5", ⟨1000⟩, "/core/trust/dbus/Agent/1"⟩

/-- A registry that refuses nobody, on a bus that sends nothing. -/
def disconnected : Environment where
  refuses _ _ _ := none
  send _ := .error (.runtimeError "disconnected")

/-- A registration whose reply is not sent takes out the agent that was registered before. -/
theorem not_allOrNothing_disconnected :
    ¬ ∀ (env : Environment) (registry : LockingAgentRegistry AgentStub)
      (call : RegisterAgentForUser), AllOrNothing env registry call := by
  intro h
  let registry : LockingAgentRegistry AgentStub :=
    LockingAgentRegistry.registerAgentForUser (fun _ => none) ⟨1000⟩ firstAgent.agent
  have hall : after disconnected registry secondAgent = registry :=
    (h disconnected registry secondAgent).trans (if_neg (by decide))
  exact absurd (congrFun hall ⟨1000⟩) (by decide)

end TrustStore.Dbus.AgentRegistry.Skeleton
