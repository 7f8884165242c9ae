import TrustStore.Agents.Cached
import TrustStore.Agents.Decorators
import TrustStore.Agents.Helper

/-!
# The daemon that answers trust requests

Models `Daemon::Skeleton` of `src/core/trust/daemon.cpp`: the factories for agents and the
wiring of `Configuration::from_command_line`. Creating the store, opening sockets and buses,
and connecting to Mir are left to an environment, and may fail.
-/

namespace TrustStore.Daemon

open TrustStore.Base

variable {σ κ : Type}

/-- `Daemon::Dictionary`; `src/core/trust/daemon.h:49`. -/
abbrev Dictionary := String → Option String

/-- `Daemon::Skeleton::LocalAgentFactory`; `src/core/trust/daemon.h:117–121`. -/
abbrev LocalAgentFactory (σ : Type) := String → Dictionary → Except Exception (Agent σ)

/-- `remote::Agent::Skeleton`, which passes incoming requests to an implementation;
`src/core/trust/remote/agent.h:55–68`. -/
structure RemoteAgent (σ : Type) where
  impl : Agent σ

/-- `remote::Agent::Skeleton::authenticate_request_with_parameters`;
`src/core/trust/remote/agent.cpp:33–36`. -/
def RemoteAgent.authenticateRequestWithParameters (agent : RemoteAgent σ) : Agent σ := agent.impl

/-- `Daemon::Skeleton::RemoteAgentFactory`; `src/core/trust/daemon.h:123–132`. -/
abbrev RemoteAgentFactory (σ : Type) :=
  String → Agent σ → Dictionary → Except Exception (RemoteAgent σ)

/-- What the daemon takes from the system that it runs on. -/
structure Environment (σ κ : Type) where
  /-- the value of `getuid()` -/
  uid : Uid
  /-- `create_default_store` -/
  createDefaultStore : String → Except Exception (Store σ κ)
  /-- connecting to the socket at an endpoint -/
  connect : String → Except Exception PUnit
  /-- `BusFactory::bus_for_type`, given the name of the type -/
  bus : String → Except Exception PUnit
  /-- `Service::use_service` and `make_service_watcher` for a name on a bus, and the
  `remote::dbus::Agent::Skeleton` -/
  useService : (bus serviceName : String) → Except Exception PUnit
  /-- `Service::add_service` and `add_object_for_path` for a name on a bus, and the
  `dbus::Agent::Skeleton` -/
  addService : (bus serviceName : String) → Except Exception PUnit
  /-- `CachedAgentGlogReporter` -/
  reporter : CachedAgent.Reporter σ
  /-- `std::chrono::system_clock::now` -/
  now : Action σ Timestamp

/-- The agent with a canned answer; `src/core/trust/daemon.cpp:83–96`. -/
def dummyAgent (cannedAnswer : Answer) : Agent σ := fun _ => return cannedAnswer

/-- `known_local_agent_factories`, given connecting to Mir at a socket and starting processes;
`src/core/trust/daemon.cpp:99–156`. -/
def knownLocalAgentFactories (createAgentForMirConnection : String → String →
    Except Exception (Agent σ)) (posix : Posix σ) : String → Option (LocalAgentFactory σ)
  | "MirAgent" => some fun serviceName dict =>
    match dict "trusted-mir-socket" with
    | none => .error (.runtimeError
        "Missing endpoint specification for accessing Mir's trusted socket.")
    | some trustedMirSocket => createAgentForMirConnection trustedMirSocket serviceName
  | "TerminalAgent" => some fun serviceName _ =>
    .ok (TerminalAgent.authenticateRequestWithParameters posix serviceName)
  | "TheAlwaysDenyingLocalAgent" => some fun _ _ => .ok (dummyAgent .denied)
  | _ => none

/-- `remote::dbus::default_service_name_prefix` and `dbus::Agent::default_service_name_pattern`;
`src/core/trust/remote/dbus.h:41–44`, `src/core/trust/dbus/agent.cpp:21–24`. -/
def agentServiceName (serviceName : String) : String := "core.trust.dbus.Agent." ++ serviceName

/-- `known_remote_agent_factories`; `src/core/trust/daemon.cpp:158–250`. -/
def knownRemoteAgentFactories (env : Environment σ κ) : String → Option (RemoteAgentFactory σ)
  | "UnixDomainSocketRemoteAgent" => some fun _ agent dict =>
    match dict "endpoint" with
    | none => .error (.runtimeError
        "Missing endpoint specification for UnixDomainSocketRemoteAgent.")
    | some endpoint => (env.connect endpoint).map fun _ => ⟨agent⟩
  | "DBusRemoteAgent" => some fun serviceName agent dict =>
    onBus env.useService serviceName agent dict
  | "SessionServiceDBusRemoteAgent" => some fun serviceName agent dict =>
    onBus env.addService serviceName agent dict
  | _ => none
where
  /-- Both agents that work over a bus ask for it in the same way, and differ in what they set up
  there. -/
  onBus (setUp : String → String → Except Exception PUnit) (serviceName : String)
      (agent : Agent σ) (dict : Dictionary) : Except Exception (RemoteAgent σ) :=
    match dict "bus" with
    | none => .error (.runtimeError
        "Missing bus specifier, please choose from \x7bsystem, session\x7d.")
    | some bus =>
      ((env.bus bus).bind fun _ => setUp bus (agentServiceName serviceName)).map fun _ => ⟨agent⟩

/-- The options of the command line, once parsed; `src/core/trust/daemon.cpp:258–264`. -/
structure VariablesMap where
  forService : String
  storeBus : String
  localAgent : String
  remoteAgent : String

/-- `Daemon::Skeleton::Configuration`; `src/core/trust/daemon.h:177–203`. -/
structure Configuration (σ κ : Type) where
  serviceName : String
  localStore : Store σ κ
  localAgent : Agent σ
  remoteAgent : RemoteAgent σ

/-- `std::map::at`. -/
def mapAt {α : Type} (lut : String → Option α) (name : String) : Except Exception α :=
  match lut name with
  | none => .error .outOfRange
  | some value => .ok value

/-- The requests that are granted without further ado; `src/core/trust/daemon.cpp:316–321`. -/
def whiteListingPredicate (dict : Dictionary) (params : RequestParameters) : Bool :=
  let isUnconfined := WhiteListingAgent.alwaysGrantForUnconfined params
  isUnconfined || (!(dict "disable-whitelisting").isSome &&
    params.application.id = "com.ubuntu.camera_camera")

/-- `Configuration::from_command_line`, past the parsing of the command line;
`src/core/trust/daemon.cpp:287–337`. -/
def fromCommandLine (localAgentFactories : String → Option (LocalAgentFactory σ))
    (env : Environment σ κ) (vm : VariablesMap) (dict : Dictionary) :
    Except Exception (Configuration σ κ) := do
  let serviceName := vm.forService
  let localAgentFactory ← mapAt localAgentFactories vm.localAgent
  let remoteAgentFactory ← mapAt (knownRemoteAgentFactories env) vm.remoteAgent
  let localStore ← env.createDefaultStore serviceName
  let localAgent ← localAgentFactory serviceName dict
  let cachedAgent ← CachedAgent.create
    { agent := some localAgent
      store := some localStore
      reporter := env.reporter
      now := env.now }
  let whitelistingAgent ←
    WhiteListingAgent.create (whiteListingPredicate dict) (some cachedAgent)
  let formattingAgent ← AppIdFormattingTrustAgent.create (some whitelistingAgent)
  let privilegeEscalationPreventionAgent ←
    PrivilegeEscalationPreventionAgent.create env.uid (some formattingAgent)
  let remoteAgent ← remoteAgentFactory serviceName formattingAgent dict
  let _ ← env.bus vm.storeBus
  return {
    serviceName := serviceName
    localStore := localStore
    localAgent := privilegeEscalationPreventionAgent
    remoteAgent := remoteAgent }

/-- The agents that requests pass before a cached agent sees them. -/
def decorate (dict : Dictionary) (cachedAgent : Agent σ) : Agent σ :=
  AppIdFormattingTrustAgent.authenticateRequestWithParameters
    (WhiteListingAgent.authenticateRequestWithParameters (whiteListingPredicate dict) cachedAgent)

/-- The remote agent passes requests to the agent that it was made for. -/
theorem remoteAgent_impl {env : Environment σ κ} {name serviceName : String}
    {factory : RemoteAgentFactory σ} {agent : Agent σ} {dict : Dictionary}
    {remoteAgent : RemoteAgent σ} (hname : knownRemoteAgentFactories env name = some factory)
    (hfactory : factory serviceName agent dict = .ok remoteAgent) :
    remoteAgent.impl = agent := by
  have hmap : ∀ {r : Except Exception PUnit},
      r.map (fun _ => (⟨agent⟩ : RemoteAgent σ)) = .ok remoteAgent → remoteAgent.impl = agent := by
    intro r hr
    cases r with
    | error e => cases hr
    | ok _ =>
      cases hr
      rfl
  unfold knownRemoteAgentFactories at hname
  split at hname
  · cases hname
    cases hendpoint : dict "endpoint" with
    | none => simp [hendpoint] at hfactory
    | some endpoint =>
      simp only [hendpoint] at hfactory
      exact hmap hfactory
  · cases hname
    simp only [knownRemoteAgentFactories.onBus] at hfactory
    split at hfactory
    · cases hfactory
    · exact hmap hfactory
  · cases hname
    simp only [knownRemoteAgentFactories.onBus] at hfactory
    split at hfactory
    · cases hfactory
    · exact hmap hfactory
  · cases hname

/-- A name that is found has a value. -/
theorem mapAt_ok {α : Type} {lut : String → Option α} {name : String} {value : α}
    (h : mapAt lut name = .ok value) : lut name = some value := by
  rw [mapAt] at h
  split at h
  · cases h
  next hvalue =>
    cases h
    exact hvalue

/-- What the wiring comes to: requests from outside reach the decorated cached agent, and the
agent that prevents privilege escalation guards nobody but the daemon itself. -/
theorem fromCommandLine_cases {localAgentFactories : String → Option (LocalAgentFactory σ)}
    {env : Environment σ κ} {vm : VariablesMap} {dict : Dictionary} {config : Configuration σ κ}
    (h : fromCommandLine localAgentFactories env vm dict = .ok config) :
    ∃ factory localAgent localStore,
      localAgentFactories vm.localAgent = some factory ∧
      factory vm.forService dict = .ok localAgent ∧
      env.createDefaultStore vm.forService = .ok localStore ∧
      config.remoteAgent.impl = decorate dict
        (CachedAgent.authenticateRequestWithParameters localAgent localStore env.reporter
          env.now) ∧
      config.localAgent = PrivilegeEscalationPreventionAgent.authenticateRequestWithParameters
        env.uid config.remoteAgent.impl := by
  rw [fromCommandLine] at h
  obtain ⟨factory, hfactory, h₁⟩ := bind_eq_ok h
  obtain ⟨remoteFactory, hremoteFactory, h₂⟩ := bind_eq_ok h₁
  obtain ⟨localStore, hstore, h₃⟩ := bind_eq_ok h₂
  obtain ⟨localAgent, hlocal, h₄⟩ := bind_eq_ok h₃
  obtain ⟨cachedAgent, hcached, h₅⟩ := bind_eq_ok h₄
  obtain ⟨whitelistingAgent, hwhitelisting, h₆⟩ := bind_eq_ok h₅
  obtain ⟨formattingAgent, hformatting, h₇⟩ := bind_eq_ok h₆
  obtain ⟨guard, hguard, h₈⟩ := bind_eq_ok h₇
  obtain ⟨remoteAgent, hremote, h₉⟩ := bind_eq_ok h₈
  obtain ⟨_, -, hconfig⟩ := bind_eq_ok h₉
  cases hcached
  cases hwhitelisting
  cases hformatting
  cases hguard
  cases hconfig
  have himpl := remoteAgent_impl (mapAt_ok hremoteFactory) hremote
  refine ⟨factory, localAgent, localStore, mapAt_ok hfactory, hlocal, hstore, himpl, ?_⟩
  simp only [himpl]

end TrustStore.Daemon
