import TrustStore.Mir.Agent
import Mathlib.Data.Nat.Find
import Mathlib.Logic.Function.Iterate

/-!
# Walking up to the process with a session

The loop of `mir::Agent::authenticate_request_with_parameters`,
`src/core/trust/mir/agent.cpp:266–297`, on an arbitrary tree of processes. It asks Mir for a
session of one ancestor after the other, and its end is the depth of the tree: the numbers of the
ancestors say nothing about it.
-/

namespace TrustStore.Mir

open TrustStore.Base

/-- The processes and their parents, as `mir::Agent::get_parent_pid_resolver` finds them during a
call. Every chain of parents comes to init or to the kernel;
`src/core/trust/mir/agent.cpp:213–221`. -/
structure ProcessTree where
  parent : Pid → Pid
  toInit : ∀ pid, ∃ n, (parent^[n] pid).value ≤ 1

/-- What came of the attempt to create a session. -/
inductive Outcome where
  | created
  | noSession
  | failed (text : String)
  deriving DecidableEq, Repr

/-- The outcome that an error message stands for. -/
def outcome (error : String) : Outcome :=
  if error = "" then .created
  else if errorNoSession.toList.isPrefixOf error.toList then .noSession
  else .failed error

namespace ProcessTree

variable (tree : ProcessTree)

/-- The ancestors of a process, from the process itself. -/
def ancestor (pid : Pid) (n : Nat) : Pid := tree.parent^[n] pid

variable (error : Pid → String) (pid : Pid)

/-- The attempt for an ancestor is the last one: it has a session, or another error, or the next
parent is no candidate. -/
def Stops (n : Nat) : Prop :=
  outcome (error (tree.ancestor pid n)) ≠ .noSession ∨ (tree.ancestor pid (n + 1)).value ≤ 1

instance : DecidablePred (tree.Stops error pid) := fun n => by
  unfold Stops
  infer_instance

/-- Some attempt is the last one, as the chain of parents ends. -/
theorem exists_stops : ∃ n, tree.Stops error pid n := by
  obtain ⟨n, hn⟩ := tree.toInit (tree.parent pid)
  exact ⟨n, .inr hn⟩

/-- The number of the last ancestor that is tried. -/
def last : Nat := Nat.find (tree.exists_stops error pid)

/-- The first of the ancestors. -/
def first (n : Nat) : List Pid := (List.range n).map (tree.ancestor pid)

/-- The processes that are tried. -/
def path : List Pid := tree.first pid (tree.last error pid + 1)

/-- The last of them. -/
def owner : Pid := tree.ancestor pid (tree.last error pid)

end ProcessTree

/-- The call is still in the loop. -/
def Location.inLoop : Location → Bool
  | creating _ | inspecting _ | resolvingParent _ => true
  | acquiring | clearing _ | resolving | executing _ | storing | waiting | translating _
  | finished _ => false

/-- A call that the loop makes. -/
def Label.inLoop : Label → Bool
  | createPromptSessionSync _ | errorMessage | parentPidResolver _ => true
  | newFd _ | fcntl _ | resolve _ | execPromptProvider _ | store | waitFor | waitFails _ | translate
  | providerExits _ | providerSignaled | providerSuspended | providerContinued
  | sessionChanged .. => false

/-- A descriptor is requested. -/
def Label.requests : Label → Bool
  | newFd _ => true
  | _ => false

/-- The helper is asked to execute the prompt provider. -/
def Label.executes : Label → Bool
  | execPromptProvider _ => true
  | _ => false

section

variable (tree : ProcessTree) (error : Pid → String)

/-- Mir and the operating system answer by the outcomes and the tree. -/
def Follows (s : State) : Label → Prop
  | .createPromptSessionSync result => ∀ pid, s.location = .creating pid → result = .ok (error pid)
  | .parentPidResolver result =>
    ∀ pid, s.location = .resolvingParent pid → result = .ok (tree.parent pid)
  | _ => True

variable (parameters : RequestParameters)

/-- How the loop ends: with the newest session, which is that of the last process, or with the
exception for its outcome. -/
def Ends (s : State) : Prop :=
  match outcome (error (tree.owner error parameters.application.pid)) with
  | .created => s.error = "" ∧ s.sessions = (tree.path error parameters.application.pid).length
  | .failed text =>
    s.location = .finished (.error (.runtimeError ("Unable to create a prompt session: " ++ text)))
  | .noSession =>
    s.location = .finished (.error (.runtimeError
      ("Could not identify Mir session associated with pid " ++
        toString parameters.application.pid.value)))

/-- What a call does on its way up, and with the session that it finds there. -/
structure Ascends (translator : WaitResult → Except Exception Answer) (labels : List Label)
    (s : State) : Prop where
  tried : s.tried <+: tree.path error parameters.application.pid
  terminates : labels.countP Label.inLoop ≤ 3 * (tree.path error parameters.application.pid).length
  proceeds : s.location.inLoop = true → ∃ label, label.inLoop = true ∧
    Follows tree error s label ∧ (step translator parameters s label).isSome
  ends : s.location.inLoop = false →
    s.tried = tree.path error parameters.application.pid ∧ Ends tree error parameters s
  requestsOnce : labels.countP Label.requests ≤ 1
  executesOnce : labels.countP Label.executes ≤ 1
  forSession : ∀ label ∈ labels, label.requests = true ∨ label.executes = true →
    outcome (error (tree.owner error parameters.application.pid)) = .created
  resolved : ∀ id ∈ s.resolved, id = parameters.application.id
  executed : ∀ args, s.location = .executing args ∨ args ∈ s.executed →
    args.description = parameters.description ∧ .resolve (.ok args.appInfo) ∈ labels

end

/-! ### The ancestors -/

namespace ProcessTree

variable {tree : ProcessTree} {error : Pid → String} {pid : Pid}

private theorem ancestor_succ (n : Nat) :
    tree.ancestor pid (n + 1) = tree.parent (tree.ancestor pid n) :=
  Function.iterate_succ_apply' ..

private theorem first_succ (n : Nat) :
    tree.first pid (n + 1) = tree.first pid n ++ [tree.ancestor pid n] := by
  rw [first, List.range_succ, List.map_append]
  rfl

private theorem first_prefix {m n : Nat} (h : m ≤ n) : tree.first pid m <+: tree.first pid n := by
  rw [first, ← Nat.min_eq_left h, ← List.take_range, List.map_take]
  exact List.take_prefix ..

private theorem path_length : (tree.path error pid).length = tree.last error pid + 1 := by
  rw [path, first, List.length_map, List.length_range]

/-- An ancestor before the last that stops is the last. -/
private theorem last_eq {n : Nat} (hn : n ≤ tree.last error pid) (hstops : tree.Stops error pid n) :
    n = tree.last error pid :=
  Nat.le_antisymm hn (Nat.find_min' _ hstops)

private theorem lt_last {n : Nat} (hn : n ≤ tree.last error pid)
    (hstops : ¬ tree.Stops error pid n) : n < tree.last error pid := by
  refine Nat.lt_of_le_of_ne hn fun heq => hstops ?_
  rw [heq]
  exact Nat.find_spec (tree.exists_stops error pid)

end ProcessTree

variable {tree : ProcessTree} {error : Pid → String} {parameters : RequestParameters}
  {translator : WaitResult → Except Exception Answer} {s t : State} {label : Label}

/-- What happens outside of a call is not counted. -/
private theorem not_uses_of_outside (h : label.outside = true) :
    label.inLoop = false ∧ label.requests = false ∧ label.executes = false := by
  cases label <;> first | exact ⟨rfl, rfl, rfl⟩ | cases h

/-! ### The loop -/

/-- After the loop, with the number of its calls. -/
private structure Left (tree : ProcessTree) (error : Pid → String)
    (parameters : RequestParameters) (calls : Nat) (s : State) : Prop where
  calls : calls ≤ 3 * (tree.path error parameters.application.pid).length
  tried : s.tried = tree.path error parameters.application.pid
  ends : Ends tree error parameters s

/-- In the loop at the ancestor `n`, after so many attempts. -/
private structure Trying (tree : ProcessTree) (error : Pid → String)
    (parameters : RequestParameters) (pid : Pid) (n attempts : Nat) (s : State) : Prop where
  le : n ≤ tree.last error parameters.application.pid
  pid : pid = tree.ancestor parameters.application.pid n
  tried : s.tried = tree.first parameters.application.pid attempts
  sessions : s.sessions = attempts

/-- Where the call is, with the number of the loop's calls. -/
private def Climbs (tree : ProcessTree) (error : Pid → String) (parameters : RequestParameters)
    (calls : Nat) (s : State) : Prop :=
  match s.location with
  | .creating pid => ∃ n, Trying tree error parameters pid n n s ∧ calls = 3 * n
  | .inspecting pid => ∃ n, Trying tree error parameters pid n (n + 1) s ∧ calls = 3 * n + 1 ∧
      s.error = error pid
  | .resolvingParent pid => ∃ n, Trying tree error parameters pid n (n + 1) s ∧
      calls = 3 * n + 2 ∧ outcome (error pid) = .noSession
  | .acquiring | .clearing _ | .resolving | .executing _ | .storing | .waiting | .translating _
  | .finished _ => Left tree error parameters calls s

private theorem climbs_start : Climbs tree error parameters 0 (start parameters) :=
  ⟨0, ⟨Nat.zero_le _, rfl, rfl, rfl⟩, rfl⟩

private theorem climbs_sameCall {calls : Nat} (h : Climbs tree error parameters calls s)
    (hsame : SameCall s t) : Climbs tree error parameters calls t := by
  unfold Climbs at h ⊢
  rw [hsame.location]
  have htrying : ∀ {pid n attempts}, Trying tree error parameters pid n attempts s →
      Trying tree error parameters pid n attempts t := fun h =>
    ⟨h.le, h.pid, hsame.tried.trans h.tried, hsame.sessions.trans h.sessions⟩
  have hleft : Left tree error parameters calls s → Left tree error parameters calls t := by
    refine fun h => ⟨h.calls, hsame.tried.trans h.tried, ?_⟩
    have hends := h.ends
    unfold Ends at hends ⊢
    rw [hsame.error, hsame.sessions, hsame.location]
    exact hends
  cases hlocation : s.location with
  | creating pid =>
    simp only [hlocation] at h ⊢
    obtain ⟨n, h, hcalls⟩ := h
    exact ⟨n, htrying h, hcalls⟩
  | inspecting pid =>
    simp only [hlocation] at h ⊢
    obtain ⟨n, h, hcalls, herror⟩ := h
    exact ⟨n, htrying h, hcalls, hsame.error.trans herror⟩
  | resolvingParent pid =>
    simp only [hlocation] at h ⊢
    obtain ⟨n, h, hcalls, hnone⟩ := h
    exact ⟨n, htrying h, hcalls, hnone⟩
  | acquiring | clearing _ | resolving | executing _ | storing | waiting | translating _
  | finished _ =>
    simp only [hlocation] at h ⊢
    exact hleft h

/-- The attempt that ends the loop is that for the owner of the path. -/
private theorem Trying.left {pid : Pid} {n calls : Nat}
    (h : Trying tree error parameters pid n (n + 1) s)
    (hstops : tree.Stops error parameters.application.pid n) (hcalls : calls ≤ 3 * (n + 1))
    (htried : t.tried = s.tried)
    (hends : pid = tree.owner error parameters.application.pid →
      s.sessions = (tree.path error parameters.application.pid).length →
        Ends tree error parameters t) : Left tree error parameters calls t := by
  have hn := ProcessTree.last_eq h.le hstops
  subst hn
  rw [← ProcessTree.path_length] at hcalls
  exact ⟨hcalls, htried.trans h.tried, hends h.pid (h.sessions.trans ProcessTree.path_length.symm)⟩

/-- A call that goes on after the loop has a session. -/
private theorem Left.created {calls : Nat} (h : Left tree error parameters calls s)
    (hactive : ∀ result, s.location ≠ .finished result) :
    outcome (error (tree.owner error parameters.application.pid)) = .created := by
  have hends := h.ends
  unfold Ends at hends
  split at hends
  next hcreated => exact hcreated
  next => exact absurd hends (hactive _)
  next => exact absurd hends (hactive _)

/-- After the loop the call keeps its session. -/
private theorem Left.keep {calls : Nat} (h : Left tree error parameters calls s)
    (hactive : ∀ result, s.location ≠ .finished result) (htried : t.tried = s.tried)
    (herror : t.error = s.error) (hsessions : t.sessions = s.sessions) :
    Left tree error parameters calls t := by
  have hcreated := h.created hactive
  have hends := h.ends
  refine ⟨h.calls, htried.trans h.tried, ?_⟩
  rw [Ends, hcreated] at hends ⊢
  exact ⟨herror.trans hends.1, hsessions.trans hends.2⟩

private theorem climbs_iff_left {calls : Nat} (h : s.location.inLoop = false) :
    Climbs tree error parameters calls s ↔ Left tree error parameters calls s := by
  unfold Climbs
  cases hlocation : s.location with
  | creating pid | inspecting pid | resolvingParent pid => simp [hlocation, Location.inLoop] at h
  | acquiring | clearing _ | resolving | executing _ | storing | waiting | translating _
  | finished _ => exact Iff.rfl

private theorem climbs_after {calls : Nat} {location : Location}
    (h : Climbs tree error parameters calls s) (hlocation : s.location = location)
    (hloop : location.inLoop = false) (hactive : ∀ result, location ≠ .finished result)
    (hloop' : t.location.inLoop = false) (htried : t.tried = s.tried) (herror : t.error = s.error)
    (hsessions : t.sessions = s.sessions) : Climbs tree error parameters calls t := by
  subst hlocation
  exact (climbs_iff_left hloop').mpr
    (((climbs_iff_left hloop).mp h).keep hactive htried herror hsessions)

/-- A step in the loop goes on to the next of its calls or leaves it, and a step after the loop
keeps the session. The measure is the number of the ancestor, which nothing decreases. -/
private theorem climbs_step {calls : Nat} (h : Climbs tree error parameters calls s)
    (hfollows : Follows tree error s label) (hstep : Steps translator parameters s label t) :
    Climbs tree error parameters (calls + label.inLoop.toNat) t := by
  rcases hstep.own_or_same with hown | ⟨houtside, hsame⟩
  · cases hown with
    | @createPromptSessionSync pid text hlocation =>
      simp only [Climbs, hlocation] at h
      obtain ⟨n, htrying, hcalls⟩ := h
      have htext : text = error pid := Except.ok.inj (hfollows pid hlocation)
      refine ⟨n, ⟨htrying.le, htrying.pid, ?_, congrArg (· + 1) htrying.sessions⟩, ?_, htext⟩
      · rw [ProcessTree.first_succ, ← htrying.tried, ← htrying.pid]
      · exact congrArg (· + 1) hcalls
    | createPromptSessionSyncThrows hlocation => cases hfollows _ hlocation
    | @created pid hlocation herror =>
      simp only [Climbs, hlocation] at h
      obtain ⟨n, htrying, hcalls, htext⟩ := h
      have houtcome : outcome (error pid) = .created := if_pos (htext.symm.trans herror)
      refine htrying.left (.inl ?_) (by simp [hcalls, Label.inLoop]; omega) rfl
        fun howner hsessions => ?_
      · rw [← htrying.pid, houtcome]
        simp
      · rw [Ends, ← howner, houtcome]
        exact ⟨herror, hsessions⟩
    | @noSession pid hlocation herror hbegins =>
      simp only [Climbs, hlocation] at h
      obtain ⟨n, htrying, hcalls, htext⟩ := h
      refine ⟨n, ⟨htrying.le, htrying.pid, htrying.tried, htrying.sessions⟩,
        congrArg (· + 1) hcalls, ?_⟩
      rw [← htext, outcome, if_neg herror, if_pos hbegins]
    | @notCreated pid hlocation herror hbegins =>
      simp only [Climbs, hlocation] at h
      obtain ⟨n, htrying, hcalls, htext⟩ := h
      have houtcome : outcome (error pid) = .failed s.error := by
        rw [← htext, outcome, if_neg herror, if_neg (by simp [hbegins])]
      refine htrying.left (.inl ?_) (by simp [hcalls, Label.inLoop]; omega) rfl fun howner _ => ?_
      · rw [← htrying.pid, houtcome]
        simp
      · rw [Ends, ← howner, houtcome]
        rfl
    | @parentPidResolver pid parent hlocation hparent =>
      simp only [Climbs, hlocation] at h
      obtain ⟨n, htrying, hcalls, houtcome⟩ := h
      have hnext : parent = tree.ancestor parameters.application.pid (n + 1) := by
        rw [ProcessTree.ancestor_succ, ← htrying.pid]
        exact Except.ok.inj (hfollows pid hlocation)
      have hgoes : ¬ tree.Stops error parameters.application.pid n := by
        rintro (hother | hinit)
        · rw [← htrying.pid] at hother
          exact hother houtcome
        · rw [← hnext] at hinit
          exact hparent hinit
      exact ⟨n + 1, ⟨ProcessTree.lt_last htrying.le hgoes, hnext, htrying.tried, htrying.sessions⟩,
        congrArg (· + 1) hcalls⟩
    | @noParent pid parent hlocation hparent =>
      simp only [Climbs, hlocation] at h
      obtain ⟨n, htrying, hcalls, houtcome⟩ := h
      have hnext : parent = tree.ancestor parameters.application.pid (n + 1) := by
        rw [ProcessTree.ancestor_succ, ← htrying.pid]
        exact Except.ok.inj (hfollows pid hlocation)
      rw [hnext] at hparent
      refine htrying.left (.inr hparent) (by simp [hcalls, Label.inLoop]; omega) rfl
        fun howner _ => ?_
      rw [Ends, ← howner, houtcome]
      rfl
    | parentPidResolverThrows hlocation => cases hfollows _ hlocation
    | newFd hlocation | newFdInvalid hlocation | fcntl hlocation | fcntlFails hlocation
    | resolve hlocation | resolveThrows hlocation | execPromptProvider hlocation
    | execPromptProviderThrows hlocation | store hlocation | waitFor hlocation
    | waitFails hlocation | translate hlocation =>
      exact climbs_after h hlocation rfl (by simp) rfl rfl rfl rfl
  · rw [(not_uses_of_outside houtside).1]
    exact climbs_sameCall h hsame

/-! ### The descriptor and the prompt provider -/

/-- How often a descriptor may have been requested before. -/
private def Location.requests : Location → Nat
  | creating _ | inspecting _ | resolvingParent _ | acquiring => 0
  | clearing _ | resolving | executing _ | storing | waiting | translating _ | finished _ => 1

/-- How often the helper may have been asked to execute the prompt provider before. -/
private def Location.executes : Location → Nat
  | creating _ | inspecting _ | resolvingParent _ | acquiring | clearing _ | resolving
  | executing _ => 0
  | storing | waiting | translating _ | finished _ => 1

/-- What the call has used its session for. -/
private structure Uses (tree : ProcessTree) (error : Pid → String)
    (parameters : RequestParameters) (labels : List Label) (s : State) : Prop where
  requests : labels.countP Label.requests ≤ s.location.requests
  executes : labels.countP Label.executes ≤ s.location.executes
  forSession : ∀ label ∈ labels, label.requests = true ∨ label.executes = true →
    outcome (error (tree.owner error parameters.application.pid)) = .created
  resolved : ∀ id ∈ s.resolved, id = parameters.application.id
  executed : ∀ args, s.location = .executing args ∨ args ∈ s.executed →
    args.description = parameters.description ∧ .resolve (.ok args.appInfo) ∈ labels

private theorem uses_start : Uses tree error parameters [] (start parameters) where
  requests := Nat.le_refl _
  executes := Nat.le_refl _
  forSession := by simp
  resolved := by simp [start]
  executed := by simp [start]

private theorem Steps.uses_le (hstep : Steps translator parameters s label t) :
    s.location.requests + label.requests.toNat ≤ t.location.requests ∧
      s.location.executes + label.executes.toNat ≤ t.location.executes := by
  rcases hstep.own_or_same with hown | ⟨houtside, hsame⟩
  · cases hown with
    | createPromptSessionSync h | createPromptSessionSyncThrows h | created h | noSession h
    | notCreated h | parentPidResolver h | noParent h | parentPidResolverThrows h | newFd h
    | newFdInvalid h | fcntl h | fcntlFails h | resolve h | resolveThrows h | execPromptProvider h
    | execPromptProviderThrows h | store h | waitFor h | waitFails h | translate h =>
      rw [h]
      simp [Location.requests, Label.requests, Location.executes, Label.executes, State.finish]
  · obtain ⟨-, hrequests, hexecutes⟩ := not_uses_of_outside houtside
    rw [hrequests, hexecutes, hsame.location]
    exact ⟨Nat.le_refl _, Nat.le_refl _⟩

private theorem countP_concat (p : Label → Bool) (labels : List Label) (label : Label) :
    (labels ++ [label]).countP p = labels.countP p + (p label).toNat := by
  rw [List.countP_append, List.countP_singleton]
  cases p label <;> rfl

/-- A descriptor is requested, and the prompt provider executed, after the loop. -/
private theorem created_of_uses {calls : Nat} (hclimbs : Climbs tree error parameters calls s)
    (hstep : Steps translator parameters s label t)
    (huses : label.requests = true ∨ label.executes = true) :
    outcome (error (tree.owner error parameters.application.pid)) = .created := by
  have hlocation : s.location = .acquiring ∨ ∃ args, s.location = .executing args := by
    rcases hstep.own_or_same with hown | ⟨houtside, -⟩
    · cases hown with
      | newFd h | newFdInvalid h => exact .inl h
      | execPromptProvider h | execPromptProviderThrows h => exact .inr ⟨_, h⟩
      | createPromptSessionSync | createPromptSessionSyncThrows | created | noSession | notCreated
      | parentPidResolver | noParent | parentPidResolverThrows | fcntl | fcntlFails | resolve
      | resolveThrows | store | waitFor | waitFails | translate =>
        rcases huses with h | h <;> cases h
    · obtain ⟨-, hrequests, hexecutes⟩ := not_uses_of_outside houtside
      simp [hrequests, hexecutes] at huses
  rcases hlocation with h | ⟨args, h⟩
  · exact ((climbs_iff_left (by rw [h]; rfl)).mp hclimbs).created (by simp [h])
  · exact ((climbs_iff_left (by rw [h]; rfl)).mp hclimbs).created (by simp [h])

/-- The arguments of the helper are made of the requester's description and of what was resolved
for its application. -/
private theorem executed_step {labels : List Label} (h : Uses tree error parameters labels s)
    (hstep : Steps translator parameters s label t) (args : InvocationArguments)
    (hargs : t.location = .executing args ∨ args ∈ t.executed) :
    args.description = parameters.description ∧
      .resolve (.ok args.appInfo) ∈ labels ++ [label] := by
  have hknown : s.location = .executing args ∨ args ∈ s.executed →
      args.description = parameters.description ∧
        .resolve (.ok args.appInfo) ∈ labels ++ [label] := fun hargs =>
    ⟨(h.executed args hargs).1, List.mem_append_left _ (h.executed args hargs).2⟩
  rcases hstep.own_or_same with hown | ⟨-, hsame⟩
  · cases hown with
    | createPromptSessionSync | createPromptSessionSyncThrows | created | noSession | notCreated
    | parentPidResolver | noParent | parentPidResolverThrows | newFd | newFdInvalid | fcntl
    | fcntlFails | resolveThrows | execPromptProviderThrows | store | waitFor | waitFails
    | translate =>
      rcases hargs with hargs | hargs
      · cases hargs
      · exact hknown (.inr hargs)
    | resolve hlocation =>
      rcases hargs with hargs | hargs
      · cases hargs
        exact ⟨rfl, List.mem_concat_self⟩
      · exact hknown (.inr hargs)
    | execPromptProvider hlocation =>
      rcases hargs with hargs | hargs
      · cases hargs
      · rcases List.mem_append.mp hargs with hargs | hargs
        · exact hknown (.inr hargs)
        · cases List.mem_singleton.mp hargs
          exact hknown (.inl hlocation)
  · rw [hsame.location, hsame.executed] at hargs
    exact hknown hargs

private theorem resolved_step (h : ∀ id ∈ s.resolved, id = parameters.application.id)
    (hstep : Steps translator parameters s label t) :
    ∀ id ∈ t.resolved, id = parameters.application.id := by
  rcases hstep.own_or_same with hown | ⟨-, hsame⟩
  · cases hown with
    | createPromptSessionSync | createPromptSessionSyncThrows | created | noSession | notCreated
    | parentPidResolver | noParent | parentPidResolverThrows | newFd | newFdInvalid | fcntl
    | fcntlFails | execPromptProvider | execPromptProviderThrows | store | waitFor | waitFails
    | translate => exact h
    | resolve | resolveThrows =>
      intro id hid
      rcases List.mem_append.mp hid with hid | hid
      · exact h id hid
      · exact List.mem_singleton.mp hid
  · rw [hsame.resolved]
    exact h

private theorem uses_step {calls : Nat} {labels : List Label}
    (h : Uses tree error parameters labels s) (hclimbs : Climbs tree error parameters calls s)
    (hstep : Steps translator parameters s label t) :
    Uses tree error parameters (labels ++ [label]) t where
  requests := by
    rw [countP_concat]
    exact Nat.le_trans (Nat.add_le_add_right h.requests _) hstep.uses_le.1
  executes := by
    rw [countP_concat]
    exact Nat.le_trans (Nat.add_le_add_right h.executes _) hstep.uses_le.2
  forSession l hl huses := by
    rcases List.mem_append.mp hl with hl | hl
    · exact h.forSession l hl huses
    · cases List.mem_singleton.mp hl
      exact created_of_uses hclimbs hstep huses
  resolved := resolved_step h.resolved hstep
  executed := executed_step h hstep

/-! ### A call -/

/-- In the loop the call can go on by an answer of the tree. -/
private theorem proceeds (translator : WaitResult → Except Exception Answer)
    (h : s.location.inLoop = true) : ∃ label, label.inLoop = true ∧
      Follows tree error s label ∧ (step translator parameters s label).isSome := by
  cases hlocation : s.location with
  | creating pid =>
    refine ⟨.createPromptSessionSync (.ok (error pid)), rfl, fun pid' h => ?_, ?_⟩
    · cases hlocation.symm.trans h
      rfl
    · unfold step
      rw [hlocation]
      rfl
  | inspecting pid =>
    refine ⟨.errorMessage, rfl, trivial, ?_⟩
    unfold step
    rw [hlocation]
    rfl
  | resolvingParent pid =>
    refine ⟨.parentPidResolver (.ok (tree.parent pid)), rfl, fun pid' h => ?_, ?_⟩
    · cases hlocation.symm.trans h
      rfl
    · unfold step
      rw [hlocation]
      rfl
  | acquiring | clearing _ | resolving | executing _ | storing | waiting | translating _
  | finished _ => simp [hlocation, Location.inLoop] at h

/-- What the loop has tried is the beginning of the path, by at most three calls for each
process. -/
private theorem tried_of_climbs {calls : Nat} (h : Climbs tree error parameters calls s) :
    s.tried <+: tree.path error parameters.application.pid ∧
      calls ≤ 3 * (tree.path error parameters.application.pid).length := by
  have htrying : ∀ {pid n attempts}, Trying tree error parameters pid n attempts s →
      attempts ≤ n + 1 → calls ≤ 3 * (n + 1) →
        s.tried <+: tree.path error parameters.application.pid ∧
          calls ≤ 3 * (tree.path error parameters.application.pid).length := by
    intro pid n attempts htrying hattempts hcalls
    have hle := htrying.le
    rw [htrying.tried, ProcessTree.path_length]
    exact ⟨ProcessTree.first_prefix (by omega), by omega⟩
  cases hlocation : s.location with
  | creating pid =>
    simp only [Climbs, hlocation] at h
    obtain ⟨n, h, hcalls⟩ := h
    exact htrying h (by omega) (by omega)
  | inspecting pid =>
    simp only [Climbs, hlocation] at h
    obtain ⟨n, h, hcalls, -⟩ := h
    exact htrying h (by omega) (by omega)
  | resolvingParent pid =>
    simp only [Climbs, hlocation] at h
    obtain ⟨n, h, hcalls, -⟩ := h
    exact htrying h (by omega) (by omega)
  | acquiring | clearing _ | resolving | executing _ | storing | waiting | translating _
  | finished _ =>
    have hleft := (climbs_iff_left (by rw [hlocation]; rfl)).mp h
    exact ⟨hleft.tried ▸ List.prefix_refl _, hleft.calls⟩

/-- A helper process with the pid 21 of the application with the pid 7. -/
def helperProcess : ProcessTree where
  parent pid := if pid = ⟨21⟩ then ⟨7⟩ else ⟨1⟩
  toInit pid := by
    refine ⟨2, ?_⟩
    by_cases h : pid = ⟨21⟩
    · subst h
      decide
    · simp only [Function.iterate_succ_apply, Function.iterate_zero_apply, if_neg h]
      decide

/-- Mir knows the application, and not the helper process. -/
def knowsApplication (pid : Pid) : String := if pid = ⟨21⟩ then errorNoSession else ""

/-- A request of the helper process. -/
def requestOfHelper : RequestParameters := ⟨⟨⟨1000⟩, ⟨21⟩, "app"⟩, ⟨1⟩, "Access?"⟩

/-- The session of the parent is found, and its prompt provider is executed. -/
def sessionOfParent : List Label :=
  [.createPromptSessionSync (.ok errorNoSession), .errorMessage, .parentPidResolver (.ok ⟨7⟩),
    .createPromptSessionSync (.ok ""), .errorMessage, .newFd 42, .fcntl none,
    .resolve (.ok ⟨"icon", "App", "app"⟩), .execPromptProvider (.ok ⟨⟩), .store, .providerExits 1,
    .waitFor, .translate]

end TrustStore.Mir
