import TrustStore.Cache.World
import TrustStore.Mir.Agent

/-!
# Provenance of grants

Runs of a `CachedAgent` that prompts through `mir::Agent` or `TerminalAgent` on an SQLite
store. Every grant, returned or stored, stems from a prompt whose helper exited with success,
as long as helpers that exit do so with success or failure: the analysis of their end takes
any other status for a grant.
-/

namespace TrustStore.Cache.Provenance

open TrustStore.Base
open TrustStore.Sqlite (Row)
open World

/-- A prompt that was shown: what it was asked, and how its helper process ended. -/
structure Prompt where
  params : RequestParameters
  helper : Option WaitResult
  deriving DecidableEq

/-- The user granted a feature to an application: the helper exited with success. -/
def Prompt.Grants (prompt : Prompt) (id : String) (feature : Feature) : Prop :=
  prompt.params.application.id = id ∧ prompt.params.feature = feature ∧
    prompt.helper = some (.exited ExitStatus.success)

/-- A dialog whose `exec` and `wait_for` come out as given. -/
def dialog (started : Except Exception PUnit) (ended : Except Exception WaitResult) :
    Posix PUnit where
  exec _ _ := Fallible.ofFn fun s => (started, s)
  waitFor := Fallible.ofFn fun s => (ended, s)

/-- A prompting agent may come out with the result, its helper ending as given. -/
inductive Arises (params : RequestParameters) : Except Exception Answer → Option WaitResult → Prop
  | mir {labels : List Mir.Label} {t : Mir.State} {result : Except Exception Answer}
      (run : Transition.run (Mir.step Mir.translatorOnlyAcceptingExitStatusSuccess params)
        (Mir.start params) labels = some t)
      (finished : t.location = .finished result) :
      Arises params result t.provider.report
  | terminal (serviceName : String) (started : Except Exception PUnit)
      (ended : Except Exception WaitResult) :
      Arises params
        ((TerminalAgent.authenticateRequestWithParameters (dialog started ended) serviceName
          params).exec ⟨⟩).1
        (started.toOption.bind fun _ => ended.toOption)

/-- A call to the cached agent, with what prompting for it would come to. -/
structure HelperCall where
  params : RequestParameters
  result : Except Exception Answer
  helper : Option WaitResult
  arises : Arises params result helper
  now : Timestamp

/-- The call with a record of its prompt. -/
def HelperCall.call (request : HelperCall) : Call Prompt where
  params := request.params
  prompt := request.result
  entry params := ⟨params, request.helper⟩
  now := request.now

/-- The store, the prompts and the results of all calls so far. -/
structure History where
  world : World Prompt
  results : List (RequestParameters × Except Exception Answer)

/-- Nothing happened yet. -/
def start (store : Sqlite.Store) : History := ⟨⟨store, []⟩, []⟩

/-- One call. -/
def step (h : History) (request : HelperCall) : Option History :=
  let (result, world) := (authenticate request.call).exec h.world
  some ⟨world, h.results ++ [(request.params, result)]⟩

/-- A record is a grant. -/
def Granted (row : Row) : Prop := row.request.answer = .granted

/-- Every grant goes back to a prompt. -/
structure Justified (h : History) : Prop where
  returned : ∀ params, (params, .ok .granted) ∈ h.results →
    ∃ prompt ∈ h.world.prompts, prompt.Grants params.application.id params.feature
  stored : ∀ row ∈ h.world.store.db.requests, Granted row → ∃ id feature,
    row.applicationId = .text id ∧ row.feature = .integer feature.value.toInt64 ∧
      ∃ prompt ∈ h.world.prompts, prompt.Grants id feature

/-- The request is written as it is, and if it prompts and the helper exits, the status is
one that `exit::Status` names. -/
def Proper (h : History) (request : HelperCall) : Prop :=
  request.params.application.id ≠ "" ∧ Storable request.params.feature ∧
    (request.call.matching h.world.store = [] → ∀ status,
      request.helper = some (.exited status) →
        status = ExitStatus.success ∨ status = ExitStatus.failure)

/-- A prompt grants only if its helper exited, with a status other than failure. -/
theorem arises_granted {params : RequestParameters} {helper : Option WaitResult}
    (h : Arises params (.ok .granted) helper) :
    ∃ status, helper = some (.exited status) ∧ status ≠ ExitStatus.failure := by
  generalize hresult : (Except.ok .granted : Except Exception Answer) = result at h
  cases h with
  | mir hrun hfinished =>
    subst hresult
    have hfits := (Mir.consistent_run hrun).fits
    rw [hfinished] at hfits
    obtain ⟨result, hreported, htranslated⟩ := hfits
    obtain ⟨status, rfl, hstatus⟩ := translateExit_granted_iff.mp htranslated
    rw [Mir.Provider.Reported] at hreported
    exact ⟨status, by rw [hreported, Mir.Provider.report], hstatus⟩
  | terminal serviceName started ended =>
    cases started with
    | error e =>
      simp [TerminalAgent.authenticateRequestWithParameters, dialog] at hresult
    | ok _ =>
      cases ended with
      | error e =>
        simp [TerminalAgent.authenticateRequestWithParameters, dialog] at hresult
      | ok waited =>
        cases htranslated : TerminalAgent.translate waited with
        | error e =>
          simp [TerminalAgent.authenticateRequestWithParameters, dialog, htranslated] at hresult
        | ok answer =>
          simp only [TerminalAgent.authenticateRequestWithParameters, dialog,
            Fallible.exec_bind, Fallible.exec_ofFn, htranslated, Fallible.exec_pure,
            Except.ok.injEq] at hresult
          subst hresult
          obtain ⟨status, rfl, hstatus⟩ := translateExit_granted_iff.mp htranslated
          exact ⟨status, rfl, hstatus⟩

/-- The prompt of a proper request grants with success only. -/
private theorem grants_of_prompt {h : History} {request : HelperCall} (hproper : Proper h request)
    (hmatching : request.call.matching h.world.store = [])
    (hprompt : request.call.prompt = .ok .granted) :
    Prompt.Grants (request.call.entry request.call.params) request.params.application.id
      request.params.feature := by
  have harises := request.arises
  rw [show request.result = .ok .granted from hprompt] at harises
  obtain ⟨status, hhelper, hstatus⟩ := arises_granted harises
  refine ⟨rfl, rfl, ?_⟩
  rcases hproper.2.2 hmatching status hhelper with rfl | hfailure
  · exact hhelper
  · exact absurd hfailure hstatus

/-- Prompts stay on record. -/
private theorem returned_mono {h : History} (hj : Justified h) {prompts : List Prompt}
    (hsub : h.world.prompts ⊆ prompts) {params : RequestParameters}
    (hmem : (params, .ok .granted) ∈ h.results) :
    ∃ prompt ∈ prompts, prompt.Grants params.application.id params.feature := by
  obtain ⟨prompt, hprompt, hgrants⟩ := hj.returned params hmem
  exact ⟨prompt, hsub hprompt, hgrants⟩

private theorem stored_mono {h : History} (hj : Justified h) {prompts : List Prompt}
    (hsub : h.world.prompts ⊆ prompts) {row : Row} (hrow : row ∈ h.world.store.db.requests)
    (hgranted : Granted row) : ∃ id feature, row.applicationId = .text id ∧
      row.feature = .integer feature.value.toInt64 ∧
        ∃ prompt ∈ prompts, prompt.Grants id feature := by
  obtain ⟨id, feature, hid, hfeature, prompt, hprompt, hgrants⟩ := hj.stored row hrow hgranted
  exact ⟨id, feature, hid, hfeature, prompt, hsub hprompt, hgrants⟩

/-- A call that leaves the table alone and whose own result is justified keeps all grants
justified. -/
private theorem justified_of_requests_eq {h : History} (hj : Justified h) {store : Sqlite.Store}
    {prompts : List Prompt} (hreq : store.db.requests = h.world.store.db.requests)
    (hsub : h.world.prompts ⊆ prompts) {params : RequestParameters}
    {result : Except Exception Answer}
    (hresult : result = .ok .granted →
      ∃ prompt ∈ prompts, prompt.Grants params.application.id params.feature) :
    Justified ⟨⟨store, prompts⟩, h.results ++ [(params, result)]⟩ := by
  constructor
  · intro params' hmem
    rcases List.mem_append.mp hmem with hmem | hmem
    · exact returned_mono hj hsub hmem
    · simp only [List.mem_singleton, Prod.mk.injEq] at hmem
      rw [hmem.1]
      exact hresult hmem.2.symm
  · intro row hrow
    rw [hreq] at hrow
    exact stored_mono hj hsub hrow

/-- A proper call keeps all grants justified. -/
theorem justified_step {h t : History} {request : HelperCall} (hj : Justified h)
    (hproper : Proper h request) (hstep : step h request = some t) : Justified t := by
  rw [step, Option.some.injEq] at hstep
  subst hstep
  have hend := authenticate_ending request.call h.world hproper.1
  generalize (authenticate request.call).exec h.world = outcome at hend ⊢
  cases hend with
  | cached row store hrow hreads =>
    apply justified_of_requests_eq hj hreads.requests (List.Subset.refl _)
    intro hgranted
    obtain ⟨hmem, hid, hfeature, -⟩ := Sqlite.mem_matching.mp (List.mem_of_mem_head? hrow)
    obtain ⟨id, feature, hid', hfeature', hprompt⟩ := hj.stored row hmem (Except.ok.inj hgranted)
    have happ : request.params.application.id = id :=
      Sqlite.Value.text.inj (hid.symm.trans hid')
    have hsame : request.params.feature = feature :=
      Sqlite.feature_inj (Sqlite.Value.integer.inj (hfeature.symm.trans hfeature'))
    rw [happ, hsame]
    exact hprompt
  | unanswered e store hnil hprompt hreads =>
    apply justified_of_requests_eq hj hreads.requests (List.subset_append_left _ _)
    intro hgranted
    cases hgranted
  | failed e store prompts hprompts hreq hadv hwhy =>
    have hsub : h.world.prompts ⊆ prompts := by
      rcases hprompts with rfl | rfl
      · exact List.Subset.refl _
      · exact List.subset_append_left _ _
    apply justified_of_requests_eq hj hreq hsub
    intro hgranted
    cases hgranted
  | answered answer store row hnil hprompt hrow hreq hreset hready hadv =>
    have hsub : h.world.prompts ⊆ h.world.prompts ++ [request.call.entry request.call.params] :=
      List.subset_append_left _ _
    have hgrants : answer = .granted → ∃ prompt ∈
        h.world.prompts ++ [request.call.entry request.call.params],
          prompt.Grants request.params.application.id request.params.feature := by
      rintro rfl
      exact ⟨_, by simp, grants_of_prompt hproper hnil hprompt⟩
    constructor
    · intro params hmem
      rcases List.mem_append.mp hmem with hmem | hmem
      · exact returned_mono hj hsub hmem
      · simp only [List.mem_singleton, Prod.mk.injEq, Except.ok.injEq] at hmem
        rw [hmem.1]
        exact hgrants hmem.2.symm
    · intro row' hmem hgranted
      simp only [hreq] at hmem
      rcases List.mem_append.mp hmem with hmem | hmem
      · exact stored_mono hj hsub hmem hgranted
      · rw [List.mem_singleton] at hmem
        rw [hmem, hrow, Granted, Row.answer_ofRequest] at hgranted
        rw [hmem, hrow]
        refine ⟨request.params.application.id, request.params.feature, rfl, ?_, hgrants hgranted⟩
        exact congrArg Sqlite.Value.integer (Sqlite.featureColumn_eq_iff _ |>.mpr hproper.2.1)

/-- Every grant that a run of proper calls from a store without grants returns or stores goes
back to a prompt for the application and the feature whose helper exited with success. -/
theorem justified_run {store : Sqlite.Store} {requests : List HelperCall} {t : History}
    (hstore : ∀ row ∈ store.db.requests, ¬ Granted row)
    (hproper : Transition.Meets step Proper (start store) requests)
    (hrun : Transition.run step (start store) requests = some t) : Justified t :=
  Transition.invariant_run (fun _ _ _ => justified_step)
    ⟨by simp [start], fun row hrow hgranted => absurd hgranted (hstore row hrow)⟩ hproper hrun

/-- A request for the feature 1 by the application `app`. -/
def params : RequestParameters := ⟨⟨⟨1000⟩, ⟨42⟩, "app"⟩, ⟨1⟩, "Access?"⟩

/-- A prompt through Mir whose helper exits with a status. -/
def prompted (status : UInt8) : List Mir.Label :=
  [.createPromptSessionSync (.ok ""), .errorMessage, .newFd 3, .fcntl none,
    .resolve (.ok ⟨"icon", "App", "app"⟩), .execPromptProvider (.ok ⟨⟩), .store,
    .providerExits status, .waitFor, .translate]

private theorem arises_prompted {status : UInt8} (hstatus : status ≠ ExitStatus.failure) :
    Arises params (.ok .granted) (some (.exited status)) := by
  have hrun : Transition.run (Mir.step Mir.translatorOnlyAcceptingExitStatusSuccess params)
      (Mir.start params) (prompted status) = some _ := rfl
  refine .mir hrun ?_
  simp [Mir.State.finish, Mir.translatorOnlyAcceptingExitStatusSuccess, translateExit,
    hstatus.symm]

/-- The helper exits with success. -/
def confirmed : HelperCall :=
  ⟨params, .ok .granted, some (.exited 0), arises_prompted (by decide), 5⟩

/-- The helper exits with a status that stands for neither success nor failure. -/
def crashed : HelperCall :=
  ⟨params, .ok .granted, some (.exited 2), arises_prompted (by decide), 5⟩

private theorem proper_confirmed (h : History) : Proper h confirmed := by
  refine ⟨by decide, by decide, fun _ status hstatus => .inl ?_⟩
  exact (WaitResult.exited.inj (Option.some.inj hstatus)).symm

/-- A grant and its repetition from the cache go back to the one prompt. -/
theorem justified_confirmed : ∃ t,
    Transition.run step (start (Sqlite.Store.empty Sqlite.Engine.stable)) [confirmed, confirmed] =
      some t ∧ t.results = [(params, .ok .granted), (params, .ok .granted)] ∧ Justified t := by
  refine ⟨_, rfl, rfl, ?_⟩
  have hrun : Transition.run step (start (Sqlite.Store.empty Sqlite.Engine.stable))
      [confirmed, confirmed] = some _ := rfl
  refine justified_run (fun row hrow => absurd hrow List.not_mem_nil) ?_ hrun
  exact ⟨proper_confirmed _, fun _ _ => ⟨proper_confirmed _, fun _ _ => trivial⟩⟩

private theorem not_justified {h : History} {prompt : Prompt}
    (hresults : h.results = [(params, .ok .granted)]) (hprompts : h.world.prompts = [prompt])
    (hhelper : prompt.helper ≠ some (.exited ExitStatus.success)) : ¬ Justified h := by
  intro hj
  obtain ⟨prompt', hmem, -, -, hgrants⟩ := hj.returned params (by simp [hresults])
  rw [hprompts, List.mem_singleton] at hmem
  exact hhelper (hmem ▸ hgrants)

/-- A helper that exits with another status has the request granted. -/
theorem not_justified_crashed : ∃ t,
    Transition.run step (start (Sqlite.Store.empty Sqlite.Engine.stable)) [crashed] = some t ∧
      ¬ Justified t :=
  ⟨_, rfl, not_justified rfl rfl (by decide)⟩

end TrustStore.Cache.Provenance
