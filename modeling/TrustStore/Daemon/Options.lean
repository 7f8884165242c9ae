import TrustStore.Daemon.PrivilegeEscalation
import TrustStore.Remote.Posix
import Mathlib.Data.List.Infix

/-!
# Options of the agents

The options that the daemon does not know itself go to the factories of the agents, in a dictionary,
`src/core/trust/daemon.cpp:56–81`. An option comes with its value in one token, `--key=value`, and
of several with the same key the last one counts. Tokens of any other form are skipped, a bare
`--key` among them, also if its factory would ask for no more than its presence.
-/

namespace TrustStore.Daemon

open TrustStore.Base
open TrustStore.Remote

/-- One turn of the loop over the unrecognized options; `src/core/trust/daemon.cpp:64–78`. -/
def fill (dict : Dictionary) (element : String) : Dictionary :=
  if "--".toList.isPrefixOf element.toList = false then dict
  else
    match element.toList.idxOf? '=' with
    | none => dict
    | some idx =>
      let key := String.ofList ((element.toList.take idx).drop 2)
      let value := String.ofList (element.toList.drop (idx + 1))
      Function.update dict key (some value)

/-- `fill_dictionary_from_unrecognized_options`, for the tokens that Boost collects;
`src/core/trust/daemon.cpp:56–81`. -/
def fillDictionaryFromUnrecognizedOptions (unrecognized : List String) : Dictionary :=
  unrecognized.foldl fill fun _ => none

/-- An option with its value. -/
def option (key value : String) : String := "--" ++ key ++ "=" ++ value

/-- What the skeletons ask about processes, and the translations of texts. -/
structure Helpers (σ : Type) where
  /-- `remote::helpers::proc_stat_start_time_resolver` -/
  procStatStartTimeResolver : Pid → Action σ Int64
  /-- `remote::helpers::aa_get_task_con_app_id_resolver` -/
  aaGetTaskConAppIdResolver : Pid → Action σ String
  /-- `i18n::tr` -/
  tr : String → String

/-- The configuration that the factory for `UnixDomainSocketRemoteAgent` connects to its endpoint;
`src/core/trust/daemon.cpp:162–186`. -/
def unixDomainSocketConfiguration {σ κ : Type} (env : Environment σ κ) (helpers : Helpers σ)
    (serviceName : String) (agent : Agent σ) (dict : Dictionary) :
    Except Exception (Posix.Skeleton.Configuration σ) :=
  match dict "endpoint" with
  | none => .error (.runtimeError
      "Missing endpoint specification for UnixDomainSocketRemoteAgent.")
  | some endpoint => (env.connect endpoint).map fun _ =>
    { impl := agent
      startTimeResolver := helpers.procStatStartTimeResolver
      appIdResolver := helpers.aaGetTaskConAppIdResolver
      descriptionFormat := (dict "description-pattern").getD
        (helpers.tr "is trying to access" ++ " " ++ serviceName ++ ".")
      verifyProcessStartTime := (dict "verify-process-timestamp").isSome }

variable {key value element : String} {dict : Dictionary} {unrecognized : List String}

/-! ### One token -/

private theorem toList_option (key value : String) :
    (option key value).toList = ('-' :: '-' :: key.toList) ++ '=' :: value.toList := by
  simp [option]

private theorem idxOf?_separator {before : List Char} (h : '=' ∉ before) (after : List Char) :
    (before ++ '=' :: after).idxOf? '=' = some before.length := by
  induction before with
  | nil => simp [List.idxOf?_cons]
  | cons c before ih =>
    rw [List.mem_cons, not_or] at h
    rw [List.cons_append, List.idxOf?_cons, if_neg (by simpa using Ne.symm h.1), ih h.2]
    rfl

private theorem not_mem_dashes (hkey : '=' ∉ key.toList) : '=' ∉ '-' :: '-' :: key.toList := by
  simpa using hkey

/-- An option is entered into the dictionary. -/
theorem fill_option (hkey : '=' ∉ key.toList) :
    fill dict (option key value) = Function.update dict key (some value) := by
  have hdashes : "--".toList.isPrefixOf (option key value).toList = true := by
    simp [toList_option]
  have hidx : (option key value).toList.idxOf? '=' = some (key.toList.length + 2) := by
    rw [toList_option, idxOf?_separator (not_mem_dashes hkey)]
    rfl
  rw [fill, hdashes, hidx, toList_option]
  simp

/-- A token that starts like an option and has a `=` is one. -/
private theorem exists_option (hdashes : "--".toList.isPrefixOf element.toList = true)
    (hseparator : '=' ∈ element.toList) :
    ∃ key value, '=' ∉ key.toList ∧ element = option key value := by
  obtain ⟨before, after, helement, hbefore⟩ := List.eq_append_cons_of_mem hseparator
  rw [helement] at hdashes
  match before with
  | [] => simp at hdashes
  | [c] => simp at hdashes
  | c :: d :: key =>
    obtain ⟨rfl, rfl⟩ : '-' = c ∧ '-' = d := by simpa using hdashes
    refine ⟨String.ofList key, String.ofList after, by simpa using hbefore, ?_⟩
    rw [← String.toList_inj, helement, toList_option, String.toList_ofList, String.toList_ofList]

/-- Every token is an option, or skipped. -/
theorem fill_cases (dict : Dictionary) (element : String) :
    (∃ key value, '=' ∉ key.toList ∧ element = option key value ∧
      fill dict element = Function.update dict key (some value)) ∨
    (∀ key value, element ≠ option key value) ∧ fill dict element = dict := by
  by_cases hdashes : "--".toList.isPrefixOf element.toList = true
  · by_cases hseparator : '=' ∈ element.toList
    · left
      obtain ⟨key, value, hkey, rfl⟩ := exists_option hdashes hseparator
      exact ⟨key, value, hkey, rfl, fill_option hkey⟩
    · right
      refine ⟨?_, ?_⟩
      · rintro key value rfl
        exact hseparator (by simp [toList_option])
      · rw [fill, hdashes, List.idxOf?_eq_none_iff.mpr hseparator]
        rfl
  · right
    refine ⟨?_, ?_⟩
    · rintro key value rfl
      exact hdashes (by simp [toList_option])
    · rw [fill, if_pos (eq_false_of_ne_true hdashes)]

/-- A token that is no option with the key leaves it alone. -/
theorem fill_other (h : ∀ value, element ≠ option key value) :
    fill dict element key = dict key := by
  rcases fill_cases dict element with ⟨key', value, -, rfl, hfill⟩ | ⟨-, hfill⟩
  · have hne : key ≠ key' := by
      rintro rfl
      exact h value rfl
    rw [hfill, Function.update_of_ne hne]
  · rw [hfill]

/-! ### All tokens -/

/-- Tokens behind the last option with a key leave it alone. -/
private theorem foldl_fill_other (h : ∀ value, option key value ∉ unrecognized) :
    unrecognized.foldl fill dict key = dict key := by
  induction unrecognized generalizing dict with
  | nil => rfl
  | cons element unrecognized ih =>
    have helement : ∀ value, element ≠ option key value := by
      rintro value rfl
      exact h value (List.mem_cons_self ..)
    rw [List.foldl_cons, ih fun value hvalue => h value (List.mem_cons_of_mem element hvalue),
      fill_other helement]

/-- Either there is no option with a key, or there is a last one. -/
private theorem last_option (key : String) (unrecognized : List String) :
    (∀ value, option key value ∉ unrecognized) ∨
      ∃ before value after, unrecognized = before ++ option key value :: after ∧
        ∀ v, option key v ∉ after := by
  induction unrecognized with
  | nil => exact .inl fun value => List.not_mem_nil
  | cons element unrecognized ih =>
    rcases ih with hnone | ⟨before, value, after, rfl, hafter⟩
    · by_cases helement : ∃ value, element = option key value
      · obtain ⟨value, rfl⟩ := helement
        exact .inr ⟨[], value, unrecognized, rfl, hnone⟩
      · left
        intro value hvalue
        rcases List.mem_cons.mp hvalue with heq | hmem
        · exact helement ⟨value, heq.symm⟩
        · exact hnone value hmem
    · exact .inr ⟨element :: before, value, after, rfl, hafter⟩

/-- The last option with a key decides. -/
private theorem fill_last (hkey : '=' ∉ key.toList) {before after : List String}
    (hafter : ∀ v, option key v ∉ after) :
    fillDictionaryFromUnrecognizedOptions (before ++ option key value :: after) key =
      some value := by
  rw [fillDictionaryFromUnrecognizedOptions, List.foldl_append, List.foldl_cons,
    foldl_fill_other hafter, fill_option hkey, Function.update_self]

/-- The dictionary has the value of the last option with a key. -/
theorem fill_eq_some_iff (hkey : '=' ∉ key.toList) :
    fillDictionaryFromUnrecognizedOptions unrecognized key = some value ↔
      ∃ before after, unrecognized = before ++ option key value :: after ∧
        ∀ v, option key v ∉ after := by
  constructor
  · intro h
    rcases last_option key unrecognized with hnone | ⟨before, value', after, rfl, hafter⟩
    · rw [fillDictionaryFromUnrecognizedOptions, foldl_fill_other hnone] at h
      cases h
    · cases (fill_last hkey hafter).symm.trans h
      exact ⟨before, after, rfl, hafter⟩
  · rintro ⟨before, after, rfl, hafter⟩
    exact fill_last hkey hafter

/-- The dictionary has a key exactly if there is an option with it. -/
theorem fill_isSome_iff (hkey : '=' ∉ key.toList) :
    (fillDictionaryFromUnrecognizedOptions unrecognized key).isSome ↔
      ∃ value, option key value ∈ unrecognized := by
  constructor
  · intro h
    obtain ⟨value, hvalue⟩ := Option.isSome_iff_exists.mp h
    obtain ⟨before, after, rfl, -⟩ := (fill_eq_some_iff hkey).mp hvalue
    exact ⟨value, by simp⟩
  · rintro ⟨value, hvalue⟩
    rcases last_option key unrecognized with hnone | ⟨before, value', after, rfl, hafter⟩
    · exact absurd hvalue (hnone value)
    · rw [fill_last hkey hafter]
      rfl

/-! ### Options that only have to be there -/

section

variable {σ κ : Type} {env : Environment σ κ} {helpers : Helpers σ} {serviceName : String}
  {agent : Agent σ} {config : Posix.Skeleton.Configuration σ}

/-- The factory makes a remote agent with such a configuration. -/
theorem unixDomainSocket_factory : ∃ factory,
    knownRemoteAgentFactories env "UnixDomainSocketRemoteAgent" = some factory ∧
      factory serviceName agent dict =
        (unixDomainSocketConfiguration env helpers serviceName agent dict).map
          fun config => ⟨config.impl⟩ := by
  refine ⟨_, rfl, ?_⟩
  rw [unixDomainSocketConfiguration]
  cases dict "endpoint" with
  | none => rfl
  | some endpoint =>
    cases hconnect : env.connect endpoint with
    | error e =>
      simp only [hconnect]
      rfl
    | ok =>
      simp only [hconnect]
      rfl

/-- The skeleton verifies start times if the dictionary has the option. -/
theorem verifyProcessStartTime_eq
    (h : unixDomainSocketConfiguration env helpers serviceName agent dict = .ok config) :
    config.verifyProcessStartTime = (dict "verify-process-timestamp").isSome := by
  rw [unixDomainSocketConfiguration] at h
  cases hendpoint : dict "endpoint" with
  | none =>
    rw [hendpoint] at h
    cases h
  | some endpoint =>
    rw [hendpoint] at h
    cases hconnect : env.connect endpoint with
    | error e =>
      simp only [hconnect] at h
      cases h
    | ok =>
      simp only [hconnect] at h
      cases h
      rfl

/-- The camera application is white-listed unless the dictionary has the option. -/
theorem whiteListingPredicate_camera {params : RequestParameters}
    (h : params.application.id = "com.ubuntu.camera_camera") :
    whiteListingPredicate dict params = !(dict "disable-whitelisting").isSome := by
  have hconfined : WhiteListingAgent.alwaysGrantForUnconfined params = false := by
    rw [WhiteListingAgent.alwaysGrantForUnconfined, h]
    decide
  simp [whiteListingPredicate, hconfined, h]

end

/-- Of the tokens that are not recognized exactly the options with their values come to the
factories, each key with the value of the last one. The options of which only the presence counts
take effect exactly if they come with a value, whatever it is. -/
theorem options_filled (unrecognized : List String) :
    (∀ key, '=' ∉ key.toList →
      ((fillDictionaryFromUnrecognizedOptions unrecognized key).isSome ↔
        ∃ value, option key value ∈ unrecognized) ∧
      ∀ value, fillDictionaryFromUnrecognizedOptions unrecognized key = some value ↔
        ∃ before after, unrecognized = before ++ option key value :: after ∧
          ∀ v, option key v ∉ after) ∧
    (∀ {σ κ : Type} (env : Environment σ κ) (helpers : Helpers σ) (serviceName : String)
      (agent : Agent σ) (config : Posix.Skeleton.Configuration σ),
      unixDomainSocketConfiguration env helpers serviceName agent
          (fillDictionaryFromUnrecognizedOptions unrecognized) = .ok config →
        (config.verifyProcessStartTime = true ↔
          ∃ value, option "verify-process-timestamp" value ∈ unrecognized)) ∧
    ∀ params : RequestParameters, params.application.id = "com.ubuntu.camera_camera" →
      (whiteListingPredicate (fillDictionaryFromUnrecognizedOptions unrecognized) params = false ↔
        ∃ value, option "disable-whitelisting" value ∈ unrecognized) := by
  refine ⟨fun key hkey => ⟨fill_isSome_iff hkey, fun value => fill_eq_some_iff hkey⟩, ?_, ?_⟩
  · intro σ κ env helpers serviceName agent config hconfig
    rw [verifyProcessStartTime_eq hconfig, fill_isSome_iff (by decide)]
  · intro params hcamera
    rw [whiteListingPredicate_camera hcamera, Bool.not_eq_false', fill_isSome_iff (by decide)]

/-- Options for a remote agent, two of them without a value. -/
def remoteOptions : List String :=
  ["--endpoint=/tmp/old", "--verify-process-timestamp=", "--disable-whitelisting",
    "--description-pattern=%1% = %2%", "--endpoint=/tmp/new"]

/-- Helpers that know one process and no other language. -/
def oneProcess : Helpers Sqlite.Store := ⟨fun _ => return 7, fun _ => return "app", id⟩

/-- The last endpoint is used, start times are verified, and the camera stays on the white list. -/
theorem options_filled_remoteOptions :
    fillDictionaryFromUnrecognizedOptions remoteOptions "endpoint" = some "/tmp/new" ∧
    (∃ config, unixDomainSocketConfiguration PrivilegeEscalation.environment oneProcess "camera"
        (dummyAgent .denied) (fillDictionaryFromUnrecognizedOptions remoteOptions) =
          .ok config ∧
      config.verifyProcessStartTime = true) ∧
    whiteListingPredicate (fillDictionaryFromUnrecognizedOptions remoteOptions)
      ⟨⟨⟨1000⟩, ⟨42⟩, "com.ubuntu.camera_camera"⟩, ⟨1⟩, "Access?"⟩ = true := by
  obtain ⟨hkeys, hverify, hcamera⟩ := options_filled remoteOptions
  refine ⟨?_, ⟨_, rfl, ?_⟩, ?_⟩
  · exact ((hkeys "endpoint" (by decide)).2 "/tmp/new").mpr
      ⟨remoteOptions.take 4, [], by decide, by simp⟩
  · exact (hverify PrivilegeEscalation.environment oneProcess "camera" (dummyAgent .denied) _
      rfl).mpr ⟨"", by decide⟩
  · have hnone : ¬ ∃ value, option "disable-whitelisting" value ∈ remoteOptions := by
      rintro ⟨value, hvalue⟩
      simp [remoteOptions, ← String.toList_inj, toList_option] at hvalue
    exact eq_true_of_ne_false (mt (hcamera _ rfl).mp hnone)

/-- A key is not in the dictionary if it comes without a value. -/
theorem not_contains_flag : ¬ ∀ (unrecognized : List String) (key : String),
    key ≠ "" → '=' ∉ key.toList →
      ((fillDictionaryFromUnrecognizedOptions unrecognized key).isSome ↔
        ∃ token ∈ unrecognized, token = "--" ++ key ∨ ∃ value, token = option key value) := by
  intro h
  have hflag := (h ["--verify-process-timestamp"] "verify-process-timestamp" (by decide)
    (by decide)).mpr ⟨_, List.mem_singleton_self _, .inl (by decide)⟩
  exact absurd hflag (by decide)

end TrustStore.Daemon
