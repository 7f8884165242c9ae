import TrustStore.Daemon.Settled

/-!
# The last word of a user

Where the answers of a daemon come from: what is answered to a request that is not white-listed is
what the user said when they were last prompted about it, or what the database had decided before,
if they never were.
-/

namespace TrustStore.Daemon.Decisions

open TrustStore.Base
open TrustStore.AppIdFormattingTrustAgent (format)
open TrustStore.Daemon.WhiteList (formatted)

/-- A prompt is about a feature of an application. -/
def About (id : String) (feature : Feature) (params : RequestParameters) : Prop :=
  params.application.id = id ∧ params.feature = feature

/-- The last word about a feature of an application: what was decided initially, if the user was
never prompted about it, or else how the user reacted to the last prompt about it. -/
inductive LastWord (user : User) (initial : String → Feature → Option Answer) (id : String)
    (feature : Feature) (answer : Answer) (prompts : List RequestParameters) : Prop
  | stored (hinitial : initial id feature = some answer)
      (hnever : ∀ params ∈ prompts, ¬ About id feature params)
  | reacted {earlier later : List RequestParameters} {params : RequestParameters}
      (hprompts : prompts = earlier ++ params :: later) (habout : About id feature params)
      (hreact : user.react earlier params = .ok answer)
      (hnever : ∀ other ∈ later, ¬ About id feature other)

variable {user : User} {initial : String → Feature → Option Answer} {id : String}
  {feature : Feature} {answer : Answer} {prompts : List RequestParameters}

private theorem not_about_concat {prompts : List RequestParameters} {params : RequestParameters}
    (hnever : ∀ other ∈ prompts, ¬ About id feature other) (hparams : ¬ About id feature params) :
    ∀ other ∈ prompts ++ [params], ¬ About id feature other := by
  intro other hmem
  rcases List.mem_append.mp hmem with hmem | hmem
  · exact hnever other hmem
  · rw [List.mem_singleton] at hmem
    rwa [hmem]

/-- A prompt about something else leaves the last word alone. -/
theorem LastWord.prompt {params : RequestParameters}
    (h : LastWord user initial id feature answer prompts) (hparams : ¬ About id feature params) :
    LastWord user initial id feature answer (prompts ++ [params]) := by
  cases h with
  | stored hinitial hnever => exact .stored hinitial (not_about_concat hnever hparams)
  | @reacted earlier later last hprompts habout hreact hnever =>
    exact .reacted (by rw [hprompts, List.append_assoc, List.cons_append]) habout hreact
      (not_about_concat hnever hparams)

/-- Every decision is the last word about it. -/
def Table.Faithful (user : User) (initial : String → Feature → Option Answer) (t : Table) : Prop :=
  ∀ id feature answer, t.decision id feature = some answer →
    LastWord user initial id feature answer t.prompts

private theorem consult_faithful {t : Table} (h : t.Faithful user initial)
    (params : RequestParameters) : (t.consult user params).2.Faithful user initial := by
  rw [Table.consult]
  cases hdecision : t.decision params.application.id params.feature with
  | some decided => exact h
  | none =>
    have hother : ∀ id feature answer, t.decision id feature = some answer →
        ¬ About id feature params := by
      rintro id feature answer hdecided ⟨rfl, rfl⟩
      rw [hdecision] at hdecided
      cases hdecided
    cases hreact : user.react t.prompts params with
    | error e =>
      intro id feature answer hdecided
      exact (h id feature answer hdecided).prompt (hother id feature answer hdecided)
    | ok reacted =>
      intro id feature answer hdecided
      by_cases habout : params.application.id = id ∧ params.feature = feature
      · have hanswer : some reacted = some answer := (if_pos habout).symm.trans hdecided
        cases hanswer
        exact .reacted rfl habout hreact (by simp)
      · have hdecided' : t.decision id feature = some answer := (if_neg habout).symm.trans hdecided
        exact (h id feature answer hdecided').prompt habout

/-- One event keeps the decisions the last word. -/
theorem faithful_step {t t' : History Table} {event : Event} (h : t.state.Faithful user initial)
    (hstep : Table.step user t event = some t') : t'.state.Faithful user initial := by
  cases event with
  | request params =>
    cases hstep
    change (t.state.answer user t.dict params).2.Faithful user initial
    rw [Table.answer]
    split
    · exact h
    · exact consult_faithful h (formatted params)
  | removeApplication removed =>
    cases hstep
    intro id feature answer hdecided
    by_cases hid : id = removed
    · cases (if_pos hid).symm.trans hdecided
    · exact h id feature answer ((if_neg hid).symm.trans hdecided)
  | reset =>
    cases hstep
    intro id feature answer hdecided
    cases hdecided
  | restart dict =>
    cases hstep
    exact h

/-- What a daemon has decided is the last word about it. -/
def Shown (setup : Setup) (initial : String → Feature → Option Answer) (h : History Exposed) :
    Prop := ∃ t, Shows t h ∧ t.state.Faithful setup.user initial

variable {setup : Setup} {h h' : History Exposed}

/-- Before anybody was prompted, what is decided is what was decided initially. -/
theorem shown_launch {store : Sqlite.Store} (hstore : AtRest store) (dict : Dictionary) :
    Shown setup (decisions store) (launch dict store) :=
  ⟨_, shows_start hstore dict, fun _ _ _ hdecided =>
    .stored hdecided (by simp [start, Table.ofStore])⟩

/-- One event of a daemon keeps its decisions the last word. -/
theorem shown_step {event : Event} (hshown : Shown setup initial h)
    (hadmissible : Admissible h event) (hstep : setup.step h event = some h') :
    Shown setup initial h' := by
  obtain ⟨t, hshows, hfaithful⟩ := hshown
  obtain ⟨t', ht', hshows'⟩ := shows_step hshows hadmissible hstep
  exact ⟨t', hshows', faithful_step hfaithful ht'⟩

/-- What is answered to a request for an application that is on no white list is the last word. -/
theorem shown_lastWord {params : RequestParameters} (hshown : Shown setup initial h)
    (hadmissible : Admissible h (.request params))
    (hstep : setup.step h (.request params) = some h') (hunlisted : Unlisted params.application.id)
    (hanswer : h'.results.getLast? = some (params, .ok answer)) :
    LastWord setup.user initial (format params.application.id) params.feature answer
      h'.state.store.prompts := by
  obtain ⟨t, hshows, hfaithful⟩ := hshown
  obtain ⟨t', ht', hshows'⟩ := shows_step hshows hadmissible hstep
  rw [← hshows'.results] at hanswer
  rw [← hshows'.prompts]
  exact faithful_step hfaithful ht' _ _ _ (request_decides hunlisted ht' hanswer)

/-- What each of several daemons has decided is the last word about it. -/
def AllShown (setups : DaemonId → Setup) (stores : DaemonId → Sqlite.Store)
    (daemons : DaemonId → History Exposed) : Prop :=
  ∀ d, Shown (setups d) (decisions (stores d)) (daemons d)

/-- Something happens to one of the daemons. -/
theorem AllShown.update {setups : DaemonId → Setup} {stores : DaemonId → Sqlite.Store}
    {daemons : DaemonId → History Exposed} (hall : AllShown setups stores daemons) {d : DaemonId}
    (hd : Shown (setups d) (decisions (stores d)) h) :
    AllShown setups stores (Function.update daemons d h) := by
  intro other
  by_cases hother : other = d
  · subst hother
    rwa [Function.update_self]
  · rw [Function.update_of_ne hother]
    exact hall other

/-- In every run of admissible events, whatever is answered to a request for an application that is
on no white list is what the user said when they were last prompted about it, for whatever version,
or, if they never were, what the database had decided before. -/
theorem answered_lastWord {setup : Setup} {store : Sqlite.Store} {dict : Dictionary}
    {events : List Event} {params : RequestParameters} {answer : Answer} {h : History Exposed}
    (hstore : AtRest store)
    (hadmissible : Transition.Meets setup.step Admissible (launch dict store)
      (events ++ [.request params]))
    (hrun : Transition.run setup.step (launch dict store) (events ++ [.request params]) = some h)
    (hunlisted : Unlisted params.application.id)
    (hanswer : h.results.getLast? = some (params, .ok answer)) :
    LastWord setup.user (decisions store) (format params.application.id) params.feature answer
      h.state.store.prompts := by
  obtain ⟨g, hg, hlast⟩ := Transition.run_append_some.mp hrun
  obtain ⟨h', hstep, hh'⟩ := Transition.run_cons_some.mp hlast
  cases hh'
  have hshown : Shown setup (decisions store) g :=
    Transition.invariant_run (fun _ _ _ => shown_step) (shown_launch hstore dict)
      hadmissible.left hg
  exact shown_lastWord hshown (hadmissible.right hg).1 hstep hunlisted hanswer

/-- The last word about a feature is from before the update of the application. -/
theorem answered_lastWord_updated :
    LastWord impatient (fun _ _ => none) "org.app_app" ⟨1⟩ .granted
      [formatted (requestOf "1.0" ⟨1⟩), formatted (requestOf "2.0" ⟨2⟩)] := by
  have hrun : Transition.run camera.step
      (launch sockets (Sqlite.Store.empty Sqlite.Engine.stable))
      ([.request (requestOf "1.0" ⟨1⟩), .restart sockets, .request (requestOf "2.0" ⟨2⟩)] ++
        [.request (requestOf "2.0" ⟨1⟩)]) = some _ := rfl
  have hadmissible : Transition.Meets camera.step Admissible
      (launch sockets (Sqlite.Store.empty Sqlite.Engine.stable))
      ([.request (requestOf "1.0" ⟨1⟩), .restart sockets, .request (requestOf "2.0" ⟨2⟩)] ++
        [.request (requestOf "2.0" ⟨1⟩)]) :=
    ⟨.inr (by decide), fun _ _ => ⟨trivial, fun _ _ => ⟨.inr (by decide), fun _ _ =>
      ⟨.inr (by decide), fun _ _ => trivial⟩⟩⟩⟩
  exact answered_lastWord ⟨⟨rfl, rfl⟩, rfl, rfl⟩ hadmissible hrun (unlisted_of_take (by decide)) rfl

end TrustStore.Daemon.Decisions
