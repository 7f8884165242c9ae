import TrustStore.Daemon.Decisions

/-!
# Decisions that stay

What the table of decisions says about a daemon over whole runs: what a user has decided about a
feature of an application stays decided, for all its versions and across restarts, until the
application is removed from the store by a client on the bus. Then the user is asked again.
-/

namespace TrustStore.Daemon.Decisions

open TrustStore.Base
open TrustStore.Cache (World)
open TrustStore.AppIdFormattingTrustAgent (format)
open TrustStore.Daemon.WhiteList (formatted)

/-- The event takes decisions for the application away. -/
def Event.Revokes (id : String) : Event → Prop
  | .removeApplication other => other = id
  | .reset => True
  | .request _ | .restart _ => False

/-- The event is a request for the feature by some version of the application. -/
def Event.About (id : String) (feature : Feature) : Event → Prop
  | .request params => format params.application.id = id ∧ params.feature = feature
  | .removeApplication _ | .reset | .restart _ => False

/-- From one point of a history to a later one nobody is prompted for a feature of an application,
and every request for it, by any version of the application, gets the same answer. -/
structure Settled (id : String) (feature : Feature) (answer : Answer)
    (prompts prompts' : List RequestParameters)
    (results results' : List (RequestParameters × Except Exception Answer)) : Prop where
  prompted : ∃ more, prompts' = prompts ++ more ∧
    ∀ params ∈ more, params.application.id = id → params.feature ≠ feature
  answered : ∃ more, results' = results ++ more ∧
    ∀ result ∈ more, format result.1.application.id = id → result.1.feature = feature →
      result.2 = .ok answer

private theorem Settled.refl (id : String) (feature : Feature) (answer : Answer)
    (prompts : List RequestParameters)
    (results : List (RequestParameters × Except Exception Answer)) :
    Settled id feature answer prompts prompts results results :=
  ⟨⟨[], (List.append_nil _).symm, by simp⟩, ⟨[], (List.append_nil _).symm, by simp⟩⟩

private theorem Settled.trans {id : String} {feature : Feature} {answer : Answer}
    {prompts₁ prompts₂ prompts₃ : List RequestParameters}
    {results₁ results₂ results₃ : List (RequestParameters × Except Exception Answer)}
    (h : Settled id feature answer prompts₁ prompts₂ results₁ results₂)
    (h' : Settled id feature answer prompts₂ prompts₃ results₂ results₃) :
    Settled id feature answer prompts₁ prompts₃ results₁ results₃ := by
  obtain ⟨⟨asked, rfl, hasked⟩, ⟨answered, rfl, hanswered⟩⟩ := h
  obtain ⟨⟨asked', rfl, hasked'⟩, ⟨answered', rfl, hanswered'⟩⟩ := h'
  refine ⟨⟨asked ++ asked', List.append_assoc .., ?_⟩,
    ⟨answered ++ answered', List.append_assoc .., ?_⟩⟩
  · intro params hmem
    exact (List.mem_append.mp hmem).elim (hasked params) (hasked' params)
  · intro result hmem
    exact (List.mem_append.mp hmem).elim (hanswered result) (hanswered' result)

/-- The options can only disable white-listing. -/
theorem whiteListingPredicate_unlisted {id : String} (hunlisted : Unlisted id)
    (dict : Dictionary) {params : RequestParameters}
    (hid : format params.application.id = format id) :
    whiteListingPredicate dict (formatted params) = false := by
  have hnone := mt (WhiteList.whiteListingPredicate_iff (fun _ => none)
    ⟨{ params.application with id }, params.feature, params.description⟩).mp hunlisted
  simp only [whiteListingPredicate, WhiteListingAgent.alwaysGrantForUnconfined, formatted, hid,
    Option.isSome_none, Bool.not_false, Bool.true_and, Bool.not_eq_true,
    Bool.or_eq_false_iff] at hnone ⊢
  exact ⟨hnone.1, Bool.and_eq_false_imp.mpr fun _ => hnone.2⟩

/-- What was consulted about and answered is decided. -/
private theorem consult_decides {user : User} {t : Table} {params : RequestParameters}
    {answer : Answer} (h : (t.consult user params).1 = .ok answer) :
    (t.consult user params).2.decision params.application.id params.feature = some answer := by
  rw [Table.consult] at h ⊢
  cases hdecision : t.decision params.application.id params.feature with
  | some decided =>
    rw [hdecision] at h
    cases h
    exact hdecision
  | none =>
    simp only [hdecision] at h
    cases hreact : user.react t.prompts params with
    | error e =>
      simp only [hreact] at h
      cases h
    | ok reacted =>
      simp only [hreact] at h ⊢
      cases h
      simp [Table.record]

/-- A decision stays when there is a request, and answers one of its own without a prompt. -/
private theorem consult_settled {user : User} {t : Table} {id : String} {feature : Feature}
    {answer : Answer} (hdecided : t.decision id feature = some answer)
    (params : RequestParameters) :
    (t.consult user params).2.decision id feature = some answer ∧
    (∃ more, (t.consult user params).2.prompts = t.prompts ++ more ∧
      ∀ other ∈ more, other.application.id = id → other.feature ≠ feature) ∧
    (params.application.id = id → params.feature = feature →
      (t.consult user params).1 = .ok answer) := by
  rw [Table.consult]
  cases hdecision : t.decision params.application.id params.feature with
  | some decided =>
    refine ⟨hdecided, ⟨[], (List.append_nil _).symm, by simp⟩, ?_⟩
    rintro rfl rfl
    rw [hdecided] at hdecision
    cases hdecision
    rfl
  | none =>
    have hother : ¬ (params.application.id = id ∧ params.feature = feature) := by
      rintro ⟨rfl, rfl⟩
      rw [hdecided] at hdecision
      cases hdecision
    have hprompted : ∀ other ∈ [params], other.application.id = id → other.feature ≠ feature := by
      intro other hmem hid hfeature
      rw [List.mem_singleton] at hmem
      exact hother (hmem ▸ ⟨hid, hfeature⟩)
    have hanswered {r : Except Exception Answer} :
        params.application.id = id → params.feature = feature → r = .ok answer :=
      fun hid hfeature => absurd ⟨hid, hfeature⟩ hother
    cases user.react t.prompts params with
    | error e => exact ⟨hdecided, ⟨_, rfl, hprompted⟩, hanswered⟩
    | ok reacted =>
      exact ⟨(if_neg hother).trans hdecided, ⟨_, rfl, hprompted⟩, hanswered⟩

/-- One event that does not revoke it leaves a decision alone, prompts nobody for it and answers by
it. -/
private theorem step_settled {user : User} {t t' : History Table} {event : Event} {id : String}
    {feature : Feature} {answer : Answer} (hunlisted : Unlisted id)
    (hkeeps : ¬ event.Revokes (format id))
    (hdecided : t.state.decision (format id) feature = some answer)
    (hstep : Table.step user t event = some t') :
    t'.state.decision (format id) feature = some answer ∧
      Settled (format id) feature answer t.state.prompts t'.state.prompts t.results t'.results := by
  cases event with
  | removeApplication other =>
    cases hstep
    exact ⟨(if_neg (Ne.symm hkeeps)).trans hdecided, Settled.refl ..⟩
  | reset => exact absurd trivial hkeeps
  | restart dict =>
    cases hstep
    exact ⟨hdecided, Settled.refl ..⟩
  | request params =>
    cases hstep
    rw [Table.answer]
    split
    next hlisted =>
      refine ⟨hdecided, ⟨⟨[], (List.append_nil _).symm, by simp⟩, ⟨_, rfl, ?_⟩⟩⟩
      intro result hmem hid
      rw [List.mem_singleton] at hmem
      rw [hmem] at hid
      rw [whiteListingPredicate_unlisted hunlisted t.dict hid] at hlisted
      cases hlisted
    next hother =>
      obtain ⟨hdecided', hprompted, hanswered⟩ := consult_settled hdecided (formatted params)
      refine ⟨hdecided', ⟨hprompted, ⟨_, rfl, ?_⟩⟩⟩
      intro result hmem hid hfeature
      rw [List.mem_singleton] at hmem
      rw [hmem] at hid hfeature ⊢
      exact hanswered hid hfeature

/-- Any such events leave it alone. -/
private theorem run_settled {user : User} {t t' : History Table} {events : List Event}
    {id : String} {feature : Feature} {answer : Answer} (hunlisted : Unlisted id)
    (hkeeps : ∀ event ∈ events, ¬ event.Revokes (format id))
    (hdecided : t.state.decision (format id) feature = some answer)
    (hrun : Transition.run (Table.step user) t events = some t') :
    Settled (format id) feature answer t.state.prompts t'.state.prompts t.results t'.results := by
  induction events generalizing t with
  | nil =>
    cases hrun
    exact Settled.refl ..
  | cons event events ih =>
    obtain ⟨u, hu, ht'⟩ := Transition.run_cons_some.mp hrun
    obtain ⟨hdecided', hsettled⟩ :=
      step_settled hunlisted (hkeeps event (List.mem_cons_self ..)) hdecided hu
    exact hsettled.trans (ih (fun other hother => hkeeps other (List.mem_cons_of_mem event hother))
      hdecided' ht')

/-- What a database has decided for an application that is on no white list stays so, from the
launch of a daemon on it. -/
theorem settled_of_decided {setup : Setup} {store : Sqlite.Store} {dict : Dictionary}
    {events : List Event} {h : History Exposed} {id : String} {feature : Feature}
    {answer : Answer} (hstore : AtRest store) (hunlisted : Unlisted id)
    (hdecided : decisions store (format id) feature = some answer)
    (hkeeps : ∀ event ∈ events, ¬ event.Revokes (format id))
    (hadmissible : Transition.Meets setup.step Admissible (launch dict store) events)
    (hrun : Transition.run setup.step (launch dict store) events = some h) :
    Settled (format id) feature answer [] h.state.store.prompts [] h.results := by
  obtain ⟨t, ht, hshows⟩ := shows_run (shows_start hstore dict) hadmissible hrun
  have hstart : (start dict (Table.ofStore store)).state.decision (format id) feature =
      some answer := hdecided
  have hsettled := run_settled hunlisted hkeeps hstart ht
  rw [hshows.prompts, hshows.results] at hsettled
  exact hsettled

/-- The answer to a request for an application that is on no white list is a decision. -/
theorem request_decides {user : User} {t t' : History Table} {params : RequestParameters}
    {answer : Answer} (hunlisted : Unlisted params.application.id)
    (hstep : Table.step user t (.request params) = some t')
    (hanswer : t'.results.getLast? = some (params, .ok answer)) :
    t'.state.decision (format params.application.id) params.feature = some answer := by
  cases hstep
  have hlisted : whiteListingPredicate t.dict (formatted params) = false :=
    whiteListingPredicate_unlisted hunlisted t.dict rfl
  have hresult : (t.state.answer user t.dict params).1 = .ok answer := by
    rw [History.answered, List.getLast?_concat, Option.some.injEq, Prod.mk.injEq] at hanswer
    exact hanswer.2
  change (t.state.answer user t.dict params).2.decision _ _ = _
  rw [Table.answer, hlisted, if_neg Bool.false_ne_true] at hresult ⊢
  exact consult_decides hresult

/-- Once a request for an application that is on no white list was answered, nobody is prompted for
it again, for no version of the application, and all requests for it get that answer, whatever else
is requested that a row can store, and however often the daemon is restarted with other options,
unless a client on the bus removes the application. -/
theorem decided_stays {setup : Setup} {store : Sqlite.Store} {dict : Dictionary}
    {before after : List Event} {params : RequestParameters} {answer : Answer}
    {h h' : History Exposed} (hstore : AtRest store)
    (hadmissible : Transition.Meets setup.step Admissible (launch dict store)
      (before ++ .request params :: after))
    (hrun : Transition.run setup.step (launch dict store) (before ++ [.request params]) = some h)
    (hanswer : h.results.getLast? = some (params, .ok answer))
    (hunlisted : Unlisted params.application.id)
    (hkeeps : ∀ event ∈ after, ¬ event.Revokes (format params.application.id))
    (hrun' : Transition.run setup.step h after = some h') :
    Settled (format params.application.id) params.feature answer h.state.store.prompts
      h'.state.store.prompts h.results h'.results := by
  rw [List.append_cons] at hadmissible
  obtain ⟨t, ht, hshows⟩ := shows_run (shows_start hstore dict) hadmissible.left hrun
  obtain ⟨t', ht', hshows'⟩ := shows_run hshows (hadmissible.right hrun) hrun'
  obtain ⟨u, -, hu⟩ := Transition.run_append_some.mp ht
  obtain ⟨t₁, hstep, hlast⟩ := Transition.run_cons_some.mp hu
  cases hlast
  rw [← hshows.results] at hanswer
  have hsettled := run_settled hunlisted hkeeps (request_decides hunlisted hstep hanswer) ht'
  rw [hshows.prompts, hshows'.prompts, hshows.results, hshows'.results] at hsettled
  exact hsettled

/-- An application of such a package is on no white list. -/
theorem unlisted_of_take {id : String} (h : id.toList.take 3 = "org".toList) : Unlisted id := by
  rintro (rfl | ⟨-, rfl | ⟨version, rfl, -⟩⟩)
  · exact absurd h (by decide)
  · exact absurd h (by decide)
  · rw [String.toList_append, List.take_append_of_le_length (by decide)] at h
    exact absurd h (by decide)

/-- The application is updated, and its new version asks for two features. -/
def upgrade : List Event :=
  [.restart sockets, .request (requestOf "2.0" ⟨2⟩), .request (requestOf "2.0" ⟨1⟩)]

/-- Its new version is granted what its old one was, without a prompt. -/
theorem decided_stays_upgrade : ∃ h h',
    Transition.run camera.step (launch sockets (Sqlite.Store.empty Sqlite.Engine.stable))
      [.request (requestOf "1.0" ⟨1⟩)] = some h ∧
    Transition.run camera.step h upgrade = some h' ∧
    Settled "org.app_app" ⟨1⟩ .granted h.state.store.prompts h'.state.store.prompts h.results
      h'.results := by
  obtain ⟨h, h', hrun, hrun', hanswer⟩ : ∃ h h',
      Transition.run camera.step (launch sockets (Sqlite.Store.empty Sqlite.Engine.stable))
        ([] ++ [.request (requestOf "1.0" ⟨1⟩)]) = some h ∧
      Transition.run camera.step h upgrade = some h' ∧
      h.results.getLast? = some (requestOf "1.0" ⟨1⟩, .ok .granted) := ⟨_, _, rfl, rfl, rfl⟩
  have hadmissible : Transition.Meets camera.step Admissible
      (launch sockets (Sqlite.Store.empty Sqlite.Engine.stable))
      ([] ++ .request (requestOf "1.0" ⟨1⟩) :: upgrade) :=
    ⟨.inr (by decide), fun _ _ => ⟨trivial, fun _ _ => ⟨.inr (by decide), fun _ _ =>
      ⟨.inr (by decide), fun _ _ => trivial⟩⟩⟩⟩
  have hkeeps : ∀ event ∈ upgrade, ¬ event.Revokes "org.app_app" := by
    simp [upgrade, Event.Revokes]
  exact ⟨h, h', hrun, hrun', decided_stays ⟨⟨rfl, rfl⟩, rfl, rfl⟩ hadmissible hrun hanswer
    (unlisted_of_take (by decide)) hkeeps hrun'⟩

/-! ### Revocation -/

/-- Nothing is decided when another request is answered. -/
private theorem consult_undecided {user : User} {t : Table} {id : String} {feature : Feature}
    (hnone : t.decision id feature = none) {params : RequestParameters}
    (hother : ¬ (params.application.id = id ∧ params.feature = feature)) :
    (t.consult user params).2.decision id feature = none := by
  rw [Table.consult]
  cases t.decision params.application.id params.feature with
  | some decided => exact hnone
  | none =>
    cases user.react t.prompts params with
    | error e => exact hnone
    | ok answer => exact (if_neg hother).trans hnone

/-- A request about what is not decided prompts the user. -/
private theorem consult_prompts {user : User} {t : Table} {params : RequestParameters}
    (hnone : t.decision params.application.id params.feature = none) :
    (t.consult user params).1 = user.react t.prompts params ∧
      (t.consult user params).2.prompts = t.prompts ++ [params] := by
  rw [Table.consult, hnone]
  cases user.react t.prompts params with
  | error e => exact ⟨rfl, rfl⟩
  | ok answer => exact ⟨rfl, rfl⟩

/-- What is not decided stays so until there is a request about it. -/
private theorem undecided_step {user : User} {t t' : History Table} {event : Event} {id : String}
    {feature : Feature} (hsilent : ¬ event.About id feature)
    (hnone : t.state.decision id feature = none) (hstep : Table.step user t event = some t') :
    t'.state.decision id feature = none := by
  cases event with
  | request params =>
    cases hstep
    change (t.state.answer user t.dict params).2.decision id feature = none
    rw [Table.answer]
    split
    · exact hnone
    · exact consult_undecided hnone hsilent
  | removeApplication other =>
    cases hstep
    change (if id = other then none else t.state.decision id feature) = none
    rw [hnone, ite_self]
  | reset =>
    cases hstep
    rfl
  | restart dict =>
    cases hstep
    exact hnone

private theorem undecided_run {user : User} {t t' : History Table} {events : List Event}
    {id : String} {feature : Feature} (hsilent : ∀ event ∈ events, ¬ event.About id feature)
    (hnone : t.state.decision id feature = none)
    (hrun : Transition.run (Table.step user) t events = some t') :
    t'.state.decision id feature = none := by
  induction events generalizing t with
  | nil =>
    cases hrun
    exact hnone
  | cons event events ih =>
    obtain ⟨u, hu, ht'⟩ := Transition.run_cons_some.mp hrun
    exact ih (fun other hother => hsilent other (List.mem_cons_of_mem event hother))
      (undecided_step (hsilent event (List.mem_cons_self ..)) hnone hu) ht'

/-- What is revoked is not decided any more. -/
private theorem revokes_step {user : User} {t t' : History Table} {event : Event} {id : String}
    (hrevokes : event.Revokes id) (feature : Feature)
    (hstep : Table.step user t event = some t') : t'.state.decision id feature = none := by
  cases event with
  | removeApplication other =>
    cases hstep
    exact if_pos (Eq.symm hrevokes)
  | reset =>
    cases hstep
    rfl
  | request params => exact False.elim hrevokes
  | restart dict => exact False.elim hrevokes

end TrustStore.Daemon.Decisions
