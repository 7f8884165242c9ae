import TrustStore.Daemon.Skeleton

/-!
# When a daemon comes up

What has to hold for `Daemon::Skeleton::Configuration::from_command_line` to succeed with an agent
that prompts through Mir, `src/core/trust/daemon.cpp:103–133`, `287–338`: the daemon tries to
connect to Mir up to five times, a second apart, and everything else is tried once.
-/

namespace TrustStore.Daemon.Startup

open TrustStore.Base

/-- The client library of Mir, with whatever goes on in the system in the meantime. -/
structure Mir (μ γ : Type) where
  /-- `mir_connect_sync` -/
  connect : String → String → μ → γ × μ
  /-- `mir_connection_is_valid` -/
  isValid : γ → Bool
  /-- `std::this_thread::sleep_for` -/
  sleep : μ → μ

/-- `mir::InvalidMirConnection`; `include/core/trust/mir_agent.h:40–46`. -/
structure InvalidMirConnection where
  what : String
  deriving DecidableEq, Repr

variable {μ γ σ κ : Type} (mir : Mir μ γ)

namespace Mir

/-- `mir::connect`; `src/core/trust/mir/agent.cpp:327–330`. -/
def connectTo (endpoint name : String) : Fallible InvalidMirConnection μ γ :=
  Fallible.ofFn fun s =>
    let (connection, t) := mir.connect endpoint name s
    (.ok connection, t)

/-- `mir::create_agent_for_mir_connection`, up to the agent that is created on the connection;
`src/core/trust/mir/agent.cpp:100–106`, `332–363`. -/
def createAgentForMirConnection (connection : γ) : Fallible InvalidMirConnection μ γ :=
  if mir.isValid connection then return connection
  else throw ⟨"Cannot create instance for invalid connection to Mir."⟩

/-- The loop of the factory, with the number of attempts that may follow the next one;
`src/core/trust/daemon.cpp:115–132`. -/
def attempt (endpoint name : String) : Nat → Fallible InvalidMirConnection μ γ
  | 0 => do mir.createAgentForMirConnection (← mir.connectTo endpoint name)
  | connectionAttempts + 1 =>
    tryCatch (do mir.createAgentForMirConnection (← mir.connectTo endpoint name)) fun _ => do
      modify mir.sleep
      attempt endpoint name connectionAttempts

/-- The agent of the factory, where one on a connection is given;
`src/core/trust/daemon.cpp:105–133`. -/
def agent (agentOn : γ → Agent σ) (s : μ) (endpoint name : String) : Except Exception (Agent σ) :=
  match ((mir.attempt endpoint name 4).exec s).1 with
  | .ok connection => .ok (agentOn connection)
  | .error e => .error (.runtimeError e.what)

/-- The system before each attempt, if all of them were to be made. -/
def before (endpoint name : String) (s : μ) : Nat → μ
  | 0 => s
  | n + 1 => mir.sleep (mir.connect endpoint name (before endpoint name s n)).2

/-- Each attempt: its connection, and the system afterwards. -/
def trial (endpoint name : String) (s : μ) (n : Nat) : γ × μ :=
  mir.connect endpoint name (mir.before endpoint name s n)

variable {mir} {endpoint name : String}

private theorem trial_succ (s : μ) (n : Nat) :
    mir.trial endpoint name s (n + 1) =
      mir.trial endpoint name (mir.sleep (mir.connect endpoint name s).2) n := by
  have hbefore : ∀ n, mir.before endpoint name s (n + 1) =
      mir.before endpoint name (mir.sleep (mir.connect endpoint name s).2) n := by
    intro n
    induction n with
    | zero => rfl
    | succ n ih => rw [before, ih, before]
  rw [trial, trial, hbefore]

/-- One attempt ends with a valid connection, or with an exception. -/
private theorem once_exec (s : μ) :
    (do mir.createAgentForMirConnection (← mir.connectTo endpoint name) :
      Fallible InvalidMirConnection μ γ).exec s =
        (if mir.isValid (mir.trial endpoint name s 0).1 then .ok (mir.trial endpoint name s 0).1
          else .error ⟨"Cannot create instance for invalid connection to Mir."⟩,
        (mir.trial endpoint name s 0).2) := by
  have hconnect : (mir.connectTo endpoint name).exec s =
      (.ok (mir.trial endpoint name s 0).1, (mir.trial endpoint name s 0).2) := rfl
  rw [Fallible.exec_bind_ok hconnect, createAgentForMirConnection]
  split <;> rfl

/-- The loop ends with the first valid connection, right after it was made, or with an exception
after the last attempt. -/
theorem attempt_exec (n : Nat) (s : μ) :
    (mir.attempt endpoint name n).exec s =
      match (List.range (n + 1)).find? fun k => mir.isValid (mir.trial endpoint name s k).1 with
      | some k => (.ok (mir.trial endpoint name s k).1, (mir.trial endpoint name s k).2)
      | none => (.error ⟨"Cannot create instance for invalid connection to Mir."⟩,
          (mir.trial endpoint name s n).2) := by
  induction n generalizing s with
  | zero =>
    rw [attempt, once_exec]
    cases hvalid : mir.isValid (mir.trial endpoint name s 0).1 <;> simp [hvalid]
  | succ n ih =>
    rw [attempt, Fallible.exec_tryCatch, once_exec, List.range_succ_eq_map, List.find?_cons]
    cases hvalid : mir.isValid (mir.trial endpoint name s 0).1 with
    | true => simp
    | false =>
      have hrest := ih (mir.sleep (mir.connect endpoint name s).2)
      have hsleep : mir.sleep (mir.trial endpoint name s 0).2 =
          mir.sleep (mir.connect endpoint name s).2 := rfl
      simp only [Bool.false_eq_true, if_false, Fallible.exec_bind, Fallible.exec_modify, hsleep,
        hrest, List.find?_map, Function.comp_def, Nat.succ_eq_add_one, trial_succ]
      cases List.find? (fun k => mir.isValid (mir.trial endpoint name
          (mir.sleep (mir.connect endpoint name s).2) k).1) (List.range (n + 1)) with
      | none => rfl
      | some k => simp only [Option.map_some, trial_succ]

/-- The factory makes an agent if and only if one of five connections is valid. -/
theorem agent_eq_ok_iff {agentOn : γ → Agent σ} {s : μ} :
    (∃ made, mir.agent agentOn s endpoint name = .ok made) ↔
      ∃ k, k < 5 ∧ mir.isValid (mir.trial endpoint name s k).1 := by
  rw [agent, attempt_exec]
  cases hfind : (List.range 5).find? fun k => mir.isValid (mir.trial endpoint name s k).1 with
  | none =>
    rw [List.find?_range_eq_none] at hfind
    constructor
    · rintro ⟨made, hmade⟩
      cases hmade
    · rintro ⟨k, hk, hvalid⟩
      exact absurd (hfind k hk) (by simp [hvalid])
  | some k =>
    rw [List.find?_range_eq_some] at hfind
    exact ⟨fun _ => ⟨k, List.mem_range.mp hfind.2.1, hfind.1⟩, fun _ => ⟨_, rfl⟩⟩

end Mir

/-- The remote agent can be created: its option is there, so is what it connects to, and on a bus it
can be set up. -/
def RemoteComesUp (env : Environment σ κ) (service remoteAgent : String) (dict : Dictionary) :
    Prop :=
  remoteAgent = "UnixDomainSocketRemoteAgent" ∧
      (∃ endpoint, dict "endpoint" = some endpoint ∧ env.connect endpoint = .ok ⟨⟩) ∨
    (remoteAgent = "DBusRemoteAgent" ∧ ∃ bus, dict "bus" = some bus ∧ env.bus bus = .ok ⟨⟩ ∧
      env.useService bus (agentServiceName service) = .ok ⟨⟩) ∨
    (remoteAgent = "SessionServiceDBusRemoteAgent" ∧ ∃ bus, dict "bus" = some bus ∧
      env.bus bus = .ok ⟨⟩ ∧ env.addService bus (agentServiceName service) = .ok ⟨⟩)

variable {mir}

/-- What a factory tries once succeeds, or nothing does. -/
private theorem ok_of_map {α : Type} {x : Except Exception PUnit} {f : PUnit → α} {a : α}
    (h : x.map f = .ok a) : x = .ok ⟨⟩ := by
  cases x with
  | error e => cases h
  | ok => rfl

/-- A remote agent on a bus is made if and only if the bus is there and the agent is set up. -/
private theorem onBus_iff {env : Environment σ κ}
    {setUp : String → String → Except Exception PUnit} {service : String} {agent : Agent σ}
    {dict : Dictionary} {remote : RemoteAgent σ} :
    knownRemoteAgentFactories.onBus env setUp service agent dict = .ok remote ↔
      remote = ⟨agent⟩ ∧ ∃ bus, dict "bus" = some bus ∧ env.bus bus = .ok ⟨⟩ ∧
        setUp bus (agentServiceName service) = .ok ⟨⟩ := by
  rw [knownRemoteAgentFactories.onBus]
  constructor
  · intro h
    cases hbus : dict "bus" with
    | none => simp [hbus] at h
    | some bus =>
      simp only [hbus] at h
      obtain ⟨_, hthere, hset⟩ := bind_eq_ok (ok_of_map h)
      rw [show (env.bus bus).bind (fun _ => setUp bus (agentServiceName service)) = .ok ⟨⟩ from
        ok_of_map h] at h
      cases h
      exact ⟨rfl, bus, rfl, hthere, hset⟩
  · rintro ⟨rfl, bus, hbus, hthere, hset⟩
    simp only [hbus, hthere, hset, Except.bind]
    rfl

private theorem remoteComesUp_of_ok {env : Environment σ κ} {remoteAgent service : String}
    {agent : Agent σ} {dict : Dictionary} {factory : RemoteAgentFactory σ} {remote : RemoteAgent σ}
    (hfactory : knownRemoteAgentFactories env remoteAgent = some factory)
    (hremote : factory service agent dict = .ok remote) :
    RemoteComesUp env service remoteAgent dict := by
  unfold knownRemoteAgentFactories at hfactory
  split at hfactory
  · cases hfactory
    cases hendpoint : dict "endpoint" with
    | none => simp [hendpoint] at hremote
    | some endpoint =>
      simp only [hendpoint] at hremote
      exact .inl ⟨rfl, endpoint, hendpoint, ok_of_map hremote⟩
  · cases hfactory
    exact .inr (.inl ⟨rfl, (onBus_iff.mp hremote).2⟩)
  · cases hfactory
    exact .inr (.inr ⟨rfl, (onBus_iff.mp hremote).2⟩)
  · cases hfactory

private theorem ok_of_remoteComesUp {env : Environment σ κ} {service remoteAgent : String}
    {dict : Dictionary} (h : RemoteComesUp env service remoteAgent dict) :
    ∃ factory, knownRemoteAgentFactories env remoteAgent = some factory ∧
      ∀ agent, factory service agent dict = .ok ⟨agent⟩ := by
  rcases h with ⟨rfl, endpoint, hendpoint, hconnect⟩ | ⟨rfl, hbus⟩ | ⟨rfl, hbus⟩
  · exact ⟨_, rfl, fun _ => by simp only [hendpoint, hconnect]; rfl⟩
  · exact ⟨_, rfl, fun _ => onBus_iff.mpr ⟨rfl, hbus⟩⟩
  · exact ⟨_, rfl, fun _ => onBus_iff.mpr ⟨rfl, hbus⟩⟩

/-- The configuration of a daemon that prompts through Mir succeeds, for whatever options and
whatever goes on in the system, if and only if the remote agent and the store can be created, the
store's bus is there, and the socket is given and gets a valid connection in one of five
attempts. -/
theorem comesUp_iff {env : Environment σ κ} {posix : Posix σ} {agentOn : γ → Agent σ} {s : μ}
    {service storeBus remoteAgent : String} {dict : Dictionary} :
    (∃ config, fromCommandLine (knownLocalAgentFactories (mir.agent agentOn s) posix) env
      ⟨service, storeBus, "MirAgent", remoteAgent⟩ dict = .ok config) ↔
    RemoteComesUp env service remoteAgent dict ∧
      (∃ store, env.createDefaultStore service = .ok store) ∧
      (∃ socket, dict "trusted-mir-socket" = some socket ∧
        ∃ k, k < 5 ∧ mir.isValid (mir.trial socket service s k).1) ∧
      env.bus storeBus = .ok ⟨⟩ := by
  constructor
  · rintro ⟨config, h⟩
    rw [fromCommandLine] at h
    obtain ⟨factory, hfactory, h₁⟩ := bind_eq_ok h
    obtain ⟨remoteFactory, hremoteFactory, h₂⟩ := bind_eq_ok h₁
    obtain ⟨localStore, hstore, h₃⟩ := bind_eq_ok h₂
    obtain ⟨localAgent, hlocal, h₄⟩ := bind_eq_ok h₃
    obtain ⟨cachedAgent, -, h₅⟩ := bind_eq_ok h₄
    obtain ⟨whitelistingAgent, -, h₆⟩ := bind_eq_ok h₅
    obtain ⟨formattingAgent, -, h₇⟩ := bind_eq_ok h₆
    obtain ⟨guard, -, h₈⟩ := bind_eq_ok h₇
    obtain ⟨remote, hremote, h₉⟩ := bind_eq_ok h₈
    obtain ⟨_, hbus, -⟩ := bind_eq_ok h₉
    refine ⟨remoteComesUp_of_ok (mapAt_ok hremoteFactory) hremote, ⟨localStore, hstore⟩, ?_, hbus⟩
    cases mapAt_ok hfactory
    cases hsocket : dict "trusted-mir-socket" with
    | none => simp [hsocket] at hlocal
    | some socket =>
      simp only [hsocket] at hlocal
      exact ⟨socket, rfl, Mir.agent_eq_ok_iff.mp ⟨_, hlocal⟩⟩
  · rintro ⟨hremote, ⟨localStore, hstore⟩, ⟨socket, hsocket, hvalid⟩, hbus⟩
    obtain ⟨factory, hfactory, hmade⟩ := ok_of_remoteComesUp hremote
    obtain ⟨localAgent, hlocal⟩ := (@Mir.agent_eq_ok_iff _ _ _ mir _ _ agentOn s).mpr hvalid
    obtain ⟨localFactory, hmap, hmadeLocal⟩ : ∃ localFactory,
        mapAt (knownLocalAgentFactories (mir.agent agentOn s) posix) "MirAgent" =
          .ok localFactory ∧ localFactory service dict = .ok localAgent := by
      refine ⟨_, rfl, ?_⟩
      simp only [hsocket]
      exact hlocal
    have hmapRemote : mapAt (knownRemoteAgentFactories env) remoteAgent = .ok factory := by
      rw [mapAt, hfactory]
    simp only [fromCommandLine, hmap, hmapRemote, hstore, Bind.bind, Except.bind, hmadeLocal,
      CachedAgent.create, WhiteListingAgent.create, AppIdFormattingTrustAgent.create,
      PrivilegeEscalationPreventionAgent.create, hmade, hbus]
    exact ⟨_, rfl⟩

end TrustStore.Daemon.Startup
