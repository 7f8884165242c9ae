import TrustStore.Daemon.PrivilegeEscalation

/-!
# Requests that are granted without asking

The remote agent hands requests to the formatting agent, which has the white-listing agent and
the cached agent behind it. The white list compares formatted application ids, so a
white-listed application is one whose id is formatted to a listed one.
-/

namespace TrustStore.Daemon.WhiteList

open TrustStore.Base
open TrustStore.AppIdFormattingTrustAgent
open TrustStore.Daemon.PrivilegeEscalation

variable {σ κ : Type}

/-- The application ids, as they come in, that need neither the store nor the user: unconfined
applications, and the camera application in any version unless white-listing is disabled. -/
def WhiteListed (dict : Dictionary) (id : String) : Prop :=
  id = "unconfined" ∨
    dict "disable-whitelisting" = none ∧
      (id = "com.ubuntu.camera_camera" ∨
        ∃ version, id = "com.ubuntu.camera_camera_" ++ version ∧ '_' ∉ version.toList ∧
          Regex.Plain version.toList)

/-- The request is granted without reaching the store or the local agent. -/
def GrantsUntouched (agent : Agent (Traced σ)) (params : RequestParameters) (t : Traced σ) :
    Prop :=
  ((agent params).exec t).1 = .ok .granted ∧ ((agent params).exec t).2.touches = t.touches

/-- The parameters with the formatted application id, and otherwise unchanged. -/
def formatted (params : RequestParameters) : RequestParameters :=
  { params with application := { params.application with id := format params.application.id } }

/-! ### Ids that are formatted to a listed one -/

private theorem not_versioned_of_count {id : String} (h : id.toList.count '_' ≤ 1)
    (unversioned version : List Char) : ¬ Versioned id unversioned version := by
  intro hversioned
  have hcount := List.count_pos_iff.mpr hversioned.qualified
  rw [hversioned.split, List.count_append, List.count_cons_self] at h
  omega

/-- Only the id itself is formatted to an id without underscores. -/
private theorem format_eq_plain_iff {id listed : String} (hlisted : '_' ∉ listed.toList) :
    format id = listed ↔ id = listed := by
  by_cases h : ∃ unversioned version, Versioned id unversioned version
  · obtain ⟨unversioned, version, h⟩ := h
    rw [format_of_versioned h]
    constructor
    · rintro rfl
      exact absurd h.qualified (by simpa using hlisted)
    · rintro rfl
      exact absurd (by simp [h.split]) hlisted
  · rw [format_of_not_versioned fun unversioned version hv => h ⟨_, _, hv⟩]

/-- An id with one underscore is what itself and its versions are formatted to. -/
private theorem format_eq_qualified_iff {id listed : String} (hcount : listed.toList.count '_' = 1)
    (hplain : Regex.Plain listed.toList) :
    format id = listed ↔ id = listed ∨
      ∃ version, id = listed ++ "_" ++ version ∧ '_' ∉ version.toList ∧
        Regex.Plain version.toList := by
  constructor
  · rintro rfl
    by_cases h : ∃ unversioned version, Versioned id unversioned version
    · obtain ⟨unversioned, version, h⟩ := h
      right
      refine ⟨String.ofList version, ?_, by simpa using h.last, ?_⟩
      · apply String.toList_inj.mp
        simp [format_of_versioned h, h.split]
      · have hid := h.plain
        rw [h.split] at hid
        simpa using (Regex.plain_cons.mp (Regex.plain_append.mp hid).2).2
    · exact .inl (format_of_not_versioned fun _ _ hversioned => h ⟨_, _, hversioned⟩).symm
  · rintro (rfl | ⟨version, rfl, hlast, hversion⟩)
    · exact format_of_not_versioned (not_versioned_of_count (Nat.le_of_eq hcount))
    · have hversioned : Versioned (listed ++ "_" ++ version) listed.toList version.toList := by
        refine ⟨by simp, ?_, List.count_pos_iff.mp (by omega), hlast⟩
        have hunderscore : Regex.Plain ("_" : String).toList := by decide
        rw [String.toList_append, String.toList_append, Regex.plain_append, Regex.plain_append]
        exact ⟨⟨hplain, hunderscore⟩, hversion⟩
      rw [format_of_versioned hversioned, String.ofList_toList]

/-- The predicate, which sees formatted ids, picks out the white-listed ones. -/
theorem whiteListingPredicate_iff (dict : Dictionary) (params : RequestParameters) :
    whiteListingPredicate dict (formatted params) = true ↔
      WhiteListed dict params.application.id := by
  have hunconfined : format params.application.id = "unconfined" ↔
      params.application.id = "unconfined" := format_eq_plain_iff (by decide)
  have hcamera : format params.application.id = "com.ubuntu.camera_camera" ↔ _ :=
    format_eq_qualified_iff (by decide) (by decide)
  have hseparator : "com.ubuntu.camera_camera" ++ "_" = "com.ubuntu.camera_camera_" := by decide
  rw [hseparator] at hcamera
  rw [WhiteListed, ← hunconfined, ← hcamera]
  simp only [whiteListingPredicate, WhiteListingAgent.alwaysGrantForUnconfined,
    Bool.or_eq_true, Bool.and_eq_true, decide_eq_true_eq, Bool.not_eq_true',
    Option.isSome_eq_false_iff, Option.isNone_iff_eq_none]
  rfl

/-! ### The chain -/

/-- What a white-listed request gets from the decorated agent, and where any other request goes. -/
theorem decorate_of_whiteListed {dict : Dictionary} {params : RequestParameters}
    (h : WhiteListed dict params.application.id) (cachedAgent : Agent σ) :
    decorate dict cachedAgent params = return .granted := by
  have hpredicate := (whiteListingPredicate_iff dict params).mpr h
  rw [formatted] at hpredicate
  rw [decorate, AppIdFormattingTrustAgent.authenticateRequestWithParameters,
    WhiteListingAgent.authenticateRequestWithParameters, if_pos hpredicate]

/-- Any other request is a call of the cached agent with formatted parameters. -/
theorem decorate_of_not_whiteListed {dict : Dictionary} {params : RequestParameters}
    (h : ¬ WhiteListed dict params.application.id) (cachedAgent : Agent σ) :
    decorate dict cachedAgent params = cachedAgent (formatted params) := by
  have hpredicate := mt (whiteListingPredicate_iff dict params).mp h
  rw [formatted] at hpredicate ⊢
  rw [decorate, AppIdFormattingTrustAgent.authenticateRequestWithParameters,
    WhiteListingAgent.authenticateRequestWithParameters, if_neg hpredicate]

/-- In every configuration, the requests that are granted without reaching the store or the local
agent are the white-listed ones. All others are one call of the cached agent. -/
theorem grantsUntouched_iff {factories : String → Option (LocalAgentFactory σ)}
    {env : Environment σ κ} {vm : VariablesMap} {dict : Dictionary}
    {config : Configuration (Traced σ) κ}
    (h : fromCommandLine (tracedFactories factories) (tracedEnvironment env) vm dict = .ok config) :
    ∃ (localAgent : Agent σ) (localStore : Store σ κ),
      (tracedEnvironment env).createDefaultStore vm.forService = .ok (tracedStore localStore) ∧
      (∃ factory, tracedFactories factories vm.localAgent = some factory ∧
        factory vm.forService dict = .ok (tracedAgent localAgent)) ∧
      ∀ (params : RequestParameters) (t : Traced σ),
        (GrantsUntouched config.remoteAgent.authenticateRequestWithParameters params t ↔
          WhiteListed dict params.application.id) ∧
        (¬ WhiteListed dict params.application.id →
          config.remoteAgent.authenticateRequestWithParameters params =
            CachedAgent.authenticateRequestWithParameters (tracedAgent localAgent)
              (tracedStore localStore) (tracedEnvironment env).reporter
              (tracedEnvironment env).now (formatted params)) := by
  obtain ⟨factory, agent, store, hfactory, hagent, hstore, himpl, -⟩ := fromCommandLine_cases h
  obtain ⟨_, -, rfl⟩ := Option.map_eq_some_iff.mp hfactory
  obtain ⟨agent, rfl⟩ := map_eq_ok hagent
  obtain ⟨store, rfl⟩ := map_eq_ok hstore
  refine ⟨agent, store, hstore, ⟨_, hfactory, hagent⟩, fun params t => ⟨⟨?_, ?_⟩, ?_⟩⟩
  · rintro ⟨-, htouches⟩
    by_contra hother
    rw [RemoteAgent.authenticateRequestWithParameters, himpl,
      decorate_of_not_whiteListed hother] at htouches
    have htouched := cached_touches agent store env (formatted params) t
    rw [htouches] at htouched
    exact Nat.lt_irrefl _ htouched
  · intro hlisted
    rw [RemoteAgent.authenticateRequestWithParameters, himpl, GrantsUntouched,
      decorate_of_whiteListed hlisted, Fallible.exec_pure]
    exact ⟨rfl, rfl⟩
  · intro hother
    rw [RemoteAgent.authenticateRequestWithParameters, himpl, decorate_of_not_whiteListed hother]

/-- The request of a user for an application with an id. -/
def requestFor (id : String) : RequestParameters :=
  { foreign with application := { foreign.application with id := id } }

/-- A daemon grants any version of the camera at once, but no other application of its package. -/
theorem grantsUntouched_iff_camera : ∃ config,
    fromCommandLine (tracedFactories localAgents) (tracedEnvironment environment) options
      dictionary = .ok config ∧
    GrantsUntouched config.remoteAgent.authenticateRequestWithParameters
      (requestFor "com.ubuntu.camera_camera_3.0") untouched ∧
    ¬ GrantsUntouched config.remoteAgent.authenticateRequestWithParameters
      (requestFor "com.ubuntu.camera_viewer_3.0") untouched := by
  have hconfig : fromCommandLine (tracedFactories localAgents) (tracedEnvironment environment)
      options dictionary = .ok _ := rfl
  obtain ⟨_, _, -, -, h⟩ := grantsUntouched_iff hconfig
  refine ⟨_, rfl, (h _ _).1.mpr ?_, fun hgrants => ?_⟩
  · exact .inr ⟨rfl, .inr ⟨"3.0", by decide, by decide, by decide⟩⟩
  · rcases (h _ _).1.mp hgrants with hid | ⟨-, hid | ⟨version, hid, -⟩⟩
    · exact absurd hid (by decide)
    · exact absurd hid (by decide)
    · have hprefix := congrArg (fun s => s.toList.take 19) hid
      rw [String.toList_append, List.take_append_of_le_length (by decide)] at hprefix
      exact absurd hprefix (by decide)

end TrustStore.Daemon.WhiteList
