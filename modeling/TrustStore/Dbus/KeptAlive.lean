import TrustStore.Dbus.AgentRegistry

/-!
# Agents that are kept alive

An agent that the skeleton's registry names is served by an object that the stub keeps alive: the
call that registered it does so until it goes on, and then the stub's own registry does. The two
registries are updated by different steps, and calls that overlap may update the one in another
order than the other. That is the only way in which a named object is lost.
-/

namespace TrustStore.Dbus.AgentRegistry

open TrustStore.Base

variable {calls : CallId → Call} {s t : State} {label : Label}

/-- The turn of a call whose message has been handled. -/
def Progress.turn : Progress → Option Nat
  | .idle | .requested => none
  | .answered turn | .unanswered turn | .returned turn _ | .finished turn _ _ => some turn

/-- The call holds the object for its agent itself. -/
def Progress.InFlight : Progress → Prop
  | .requested | .answered _ | .unanswered _ | .returned _ _ => True
  | .idle | .finished _ _ _ => False

/-- The object of a registration is kept alive: by the call, or by the registry of its stub. -/
def KeptAlive (calls : CallId → Call) (s : State) (c : CallId) : Prop :=
  (s.progress c).InFlight ∨ s.lockingAgentRegistry (calls c).stub (calls c).uid = some c

/-- Another call of the same stub for the same user, whose message the skeleton handled before,
updated the registry of the stub afterwards. -/
def Overtaken (calls : CallId → Call) (s : State) (c : CallId) : Prop :=
  ∃ d turn turn' updated updated' outcome outcome',
    (calls d).stub = (calls c).stub ∧ (calls d).uid = (calls c).uid ∧
      s.progress c = .finished turn (some updated) outcome ∧
      s.progress d = .finished turn' (some updated') outcome' ∧
      turn' < turn ∧ updated < updated'

/-- A registration that has not failed: its reply is on the way, or it was successful and the
registry of the stub has its object, unless another call has overtaken it. -/
def Serving (calls : CallId → Call) (s : State) (c : CallId) : Prop :=
  match s.progress c with
  | .answered _ | .returned _ (.ok _) => True
  | .finished _ (some _) _ =>
    s.lockingAgentRegistry (calls c).stub (calls c).uid = some c ∨ Overtaken calls s c
  | _ => False

/-- Every stub has a queue of calls of its own, which are all as `P` says and in it once. -/
structure Queued (calls : CallId → Call) (P : CallId → Prop) (queue : StubId → List CallId) :
    Prop where
  mem : ∀ p, ∀ c ∈ queue p, P c ∧ (calls c).stub = p
  nodup : ∀ p, (queue p).Nodup

/-- What holds throughout a run. Calls wait in the queue of their stub, the skeleton takes them in
turn, and what its registry names for a user was registered by the call that it handled last. -/
structure Current (calls : CallId → Call) (s : State) : Prop where
  requests : Queued calls (fun c => s.progress c = .requested) s.requests
  replies : Queued calls (fun c => ∃ turn, s.progress c = .answered turn) s.replies
  turn_lt : ∀ c turn, (s.progress c).turn = some turn → turn < s.handled
  turn_inj : ∀ c d turn, (s.progress c).turn = some turn → (s.progress d).turn = some turn → c = d
  updated_lt : ∀ c turn updated outcome,
    s.progress c = .finished turn (some updated) outcome → updated < s.updates
  named : ∀ uid agent, s.impl uid = some agent → ∃ c turn,
    (calls c).uid = uid ∧ (calls c).announces = some agent ∧ (s.progress c).turn = some turn ∧
      (∀ d turn', (calls d).uid = uid → (s.progress d).turn = some turn' → turn' ≤ turn) ∧
      Serving calls s c

/-! ### Queues -/

section

variable {P Q : CallId → Prop} {queue : StubId → List CallId} {c : CallId}

/-- A call that is in no queue changes. -/
private theorem Queued.keep (h : Queued calls P queue) (hc : ¬P c)
    (hPQ : ∀ d, d ≠ c → P d → Q d) : Queued calls Q queue where
  mem p d hd := by
    obtain ⟨hP, hstub⟩ := h.mem p d hd
    have hdc : d ≠ c := by
      rintro rfl
      exact hc hP
    exact ⟨hPQ d hdc hP, hstub⟩
  nodup := h.nodup

/-- A call enters the queue of its stub. -/
private theorem Queued.push (h : Queued calls P queue) {p : StubId} (hstub : (calls c).stub = p)
    (hc : ¬P c) (hQ : Q c) (hPQ : ∀ d, d ≠ c → P d → Q d) :
    Queued calls Q (Function.update queue p (queue p ++ [c])) where
  mem q d hd := by
    by_cases hdc : d = c
    · subst hdc
      refine ⟨hQ, ?_⟩
      by_cases hq : q = p
      · rw [hq, hstub]
      · rw [Function.update_of_ne hq] at hd
        exact absurd (h.mem q d hd).1 hc
    · have hmem : d ∈ queue q := by
        rw [Function.update_apply] at hd
        split at hd
        next hq =>
          rw [hq]
          simpa [hdc] using hd
        next => exact hd
      obtain ⟨hP, hd⟩ := h.mem q d hmem
      exact ⟨hPQ d hdc hP, hd⟩
  nodup q := by
    rw [Function.update_apply]
    split
    · refine List.nodup_append.mpr ⟨h.nodup p, by simp, ?_⟩
      rintro d hd e he rfl
      rw [List.mem_singleton.mp he] at hd
      exact hc (h.mem p c hd).1
    · exact h.nodup q

/-- The oldest call leaves its queue. -/
private theorem Queued.pop (h : Queued calls P queue) {p : StubId} {rest : List CallId}
    (hqueue : queue p = c :: rest) (hPQ : ∀ d, d ≠ c → P d → Q d) :
    Queued calls Q (Function.update queue p rest) := by
  have hnodup := h.nodup p
  rw [hqueue, List.nodup_cons] at hnodup
  have hstub := (h.mem p c (by rw [hqueue]; exact List.mem_cons_self)).2
  refine ⟨fun q d hd => ?_, fun q => ?_⟩
  · have hmem : d ∈ queue q ∧ d ≠ c := by
      rw [Function.update_apply] at hd
      split at hd
      next hq =>
        rw [hq, hqueue]
        refine ⟨List.mem_cons_of_mem c hd, ?_⟩
        rintro rfl
        exact hnodup.1 hd
      next hq =>
        refine ⟨hd, ?_⟩
        rintro rfl
        exact hq ((h.mem q d hd).2.symm.trans hstub)
    obtain ⟨hP, hd⟩ := h.mem q d hmem.1
    exact ⟨hPQ d hmem.2 hP, hd⟩
  · rw [Function.update_apply]
    split
    · exact hnodup.2
    · exact h.nodup q

end

/-! ### Frames -/

section

variable {c x : CallId} {progress : Progress}

/-- The calls in a phase that another one is not in remain there when that one goes on. -/
private theorem requested_of_progress (d : CallId) (hdc : d ≠ c)
    (hd : s.progress d = .requested) :
    Function.update s.progress c progress d = .requested := by
  rw [Function.update_of_ne hdc, hd]

private theorem answered_of_progress (d : CallId) (hdc : d ≠ c)
    (hd : ∃ turn, s.progress d = .answered turn) :
    ∃ turn, Function.update s.progress c progress d = .answered turn := by
  rw [Function.update_of_ne hdc]
  exact hd

/-- What has overtaken a call has done so for good. -/
private theorem overtaken_of_progress (h : Overtaken calls s x)
    (hc : ∀ turn updated outcome, s.progress c ≠ .finished turn updated outcome)
    (hprogress : t.progress = Function.update s.progress c progress) : Overtaken calls t x := by
  obtain ⟨d, turn, turn', updated, updated', outcome, outcome', hstub, huid, hx, hd, hlt⟩ := h
  have hxc : x ≠ c := by
    rintro rfl
    exact hc _ _ _ hx
  have hdc : d ≠ c := by
    rintro rfl
    exact hc _ _ _ hd
  refine ⟨d, turn, turn', updated, updated', outcome, outcome', hstub, huid, ?_, ?_, hlt⟩
  · rw [hprogress, Function.update_of_ne hxc, hx]
  · rw [hprogress, Function.update_of_ne hdc, hd]

private theorem serving_cases (h : Serving calls s x) :
    (∃ turn, s.progress x = .answered turn) ∨ (∃ turn, s.progress x = .returned turn (.ok ())) ∨
      ∃ turn updated outcome, s.progress x = .finished turn (some updated) outcome ∧
        (s.lockingAgentRegistry (calls x).stub (calls x).uid = some x ∨ Overtaken calls s x) := by
  rw [Serving] at h
  split at h
  next turn hx => exact .inl ⟨turn, hx⟩
  next turn value hx => exact .inr (.inl ⟨turn, hx⟩)
  next turn updated outcome hx => exact .inr (.inr ⟨turn, updated, outcome, hx, h⟩)
  next => exact h.elim

/-- A registration serves as it did while another call goes on and its registry stays. -/
private theorem serving_of_progress (h : Serving calls s x) (hxc : x ≠ c)
    (hc : ∀ turn updated outcome, s.progress c ≠ .finished turn updated outcome)
    (hprogress : t.progress = Function.update s.progress c progress)
    (hregistry : t.lockingAgentRegistry (calls x).stub (calls x).uid =
      s.lockingAgentRegistry (calls x).stub (calls x).uid) : Serving calls t x := by
  have hsame : t.progress x = s.progress x := by rw [hprogress, Function.update_of_ne hxc]
  rw [Serving, hsame, hregistry]
  rcases serving_cases h with ⟨turn, hx⟩ | ⟨turn, hx⟩ | ⟨turn, updated, outcome, hx, hserving⟩
  · rw [hx]
    trivial
  · rw [hx]
    trivial
  · rw [hx]
    exact hserving.imp_right fun hovertaken => overtaken_of_progress hovertaken hc hprogress

/-- A call goes on without a new turn and without the registries. -/
private theorem current_of_progress (h : Current calls s) {requests replies : StubId → List CallId}
    (hc : ∀ turn updated outcome, s.progress c ≠ .finished turn updated outcome)
    (hfinished : ∀ turn updated outcome, progress ≠ .finished turn (some updated) outcome)
    (hturn : progress.turn = (s.progress c).turn)
    (hrequests : Queued calls
      (fun d => Function.update s.progress c progress d = .requested) requests)
    (hreplies : Queued calls
      (fun d => ∃ turn, Function.update s.progress c progress d = .answered turn) replies)
    (hserving : Serving calls s c → Serving calls
      { s with
        requests := requests
        replies := replies
        progress := Function.update s.progress c progress } c) :
    Current calls
      { s with
        requests := requests
        replies := replies
        progress := Function.update s.progress c progress } := by
  have hturns : ∀ d, (Function.update s.progress c progress d).turn = (s.progress d).turn := by
    intro d
    by_cases hdc : d = c
    · subst hdc
      rw [Function.update_self, hturn]
    · rw [Function.update_of_ne hdc]
  refine ⟨hrequests, hreplies, ?_, ?_, ?_, ?_⟩
  · intro d turn hd
    exact h.turn_lt d turn (hturns d ▸ hd)
  · intro d e turn hd he
    exact h.turn_inj d e turn (hturns d ▸ hd) (hturns e ▸ he)
  · intro d turn updated outcome hd
    by_cases hdc : d = c
    · subst hdc
      simp only [Function.update_self] at hd
      exact absurd hd (hfinished turn updated outcome)
    · simp only [Function.update_of_ne hdc] at hd
      exact h.updated_lt d turn updated outcome hd
  · intro uid agent hagent
    obtain ⟨x, turn, huid, hannounces, hx, hlast, hxserving⟩ := h.named uid agent hagent
    refine ⟨x, turn, huid, hannounces, (hturns x).trans hx, ?_, ?_⟩
    · intro d turn' hd hd'
      exact hlast d turn' hd (hturns d ▸ hd')
    · by_cases hxc : x = c
      · subst hxc
        exact hserving hxserving
      · exact serving_of_progress hxserving hxc hc rfl rfl

end

/-! ### Steps -/

private theorem current_invoke (h : Current calls s) {c : CallId} (hc : s.progress c = .idle) :
    Current calls
      { s with
        requests := Function.update s.requests (calls c).stub (s.requests (calls c).stub ++ [c])
        progress := Function.update s.progress c .requested } := by
  apply current_of_progress h (by simp [hc]) (by simp) (by rw [hc]; rfl)
  · exact h.requests.push rfl (by simp [hc]) (by simp) requested_of_progress
  · exact h.replies.keep (by simp [hc]) answered_of_progress
  · intro hserving
    simp only [Serving, hc] at hserving

private theorem current_reply (h : Current calls s) {p : StubId} {c : CallId}
    {rest : List CallId} {turn : Nat} (hqueue : s.replies p = c :: rest)
    (hc : s.progress c = .answered turn) :
    Current calls
      { s with
        replies := Function.update s.replies p rest
        progress := Function.update s.progress c (.returned turn (.ok ())) } := by
  apply current_of_progress h (by simp [hc]) (by simp) (by rw [hc]; rfl)
  · exact h.requests.keep (c := c) (by simp [hc]) requested_of_progress
  · exact h.replies.pop hqueue answered_of_progress
  · intro _
    simp only [Serving, Function.update_self]

private theorem current_timeOut (h : Current calls s) {c : CallId} {turn : Nat} {text : String}
    (hc : s.progress c = .unanswered turn) :
    Current calls
      { s with progress := Function.update s.progress c (.returned turn (.error text)) } := by
  apply current_of_progress h (by simp [hc]) (by simp) (by rw [hc]; rfl)
  · exact h.requests.keep (c := c) (by simp [hc]) requested_of_progress
  · exact h.replies.keep (c := c) (by simp [hc]) answered_of_progress
  · intro hserving
    simp only [Serving, hc] at hserving

/-- What the skeleton's registry has after a message: the agent of the call, if the reply was sent,
and for other users what it had before. -/
private theorem handle_eq_some {impl : LockingAgentRegistry AgentStub} {call : Call} {sent : Bool}
    {uid : Uid} {agent : AgentStub} (h : Skeleton.handle impl call sent uid = some agent) :
    call.uid = uid ∧ call.announces = some agent ∧ sent = true ∨
      call.uid ≠ uid ∧ impl uid = some agent := by
  by_cases huid : call.uid = uid
  · subst huid
    left
    rw [Skeleton.handle] at h
    cases hannounces : call.announces with
    | none => simp [hannounces, LockingAgentRegistry.unregisterAgentForUser] at h
    | some agent' =>
      cases sent <;> simp [hannounces, LockingAgentRegistry.unregisterAgentForUser,
        LockingAgentRegistry.registerAgentForUser] at h
      exact ⟨rfl, by rw [h], rfl⟩
  · right
    refine ⟨huid, ?_⟩
    rw [Skeleton.handle] at h
    cases hannounces : call.announces <;> cases sent <;>
      simpa [hannounces, LockingAgentRegistry.unregisterAgentForUser,
        LockingAgentRegistry.registerAgentForUser, Function.update_of_ne (Ne.symm huid)] using h

/-- The skeleton handles the message of a call, whose turn is the last so far. -/
private theorem current_handle (h : Current calls s) {p : StubId} {c : CallId}
    {rest : List CallId} (hqueue : s.requests p = c :: rest) (sent : Bool) :
    Current calls
      { s with
        impl := Skeleton.handle s.impl (calls c) sent
        requests := Function.update s.requests p rest
        replies := if sent then Function.update s.replies p (s.replies p ++ [c]) else s.replies
        progress := Function.update s.progress c
          (if sent then .answered s.handled else .unanswered s.handled)
        handled := s.handled + 1 } := by
  obtain ⟨hc, hstub⟩ := h.requests.mem p c (by rw [hqueue]; exact List.mem_cons_self)
  have hturn : (if sent then Progress.answered s.handled else .unanswered s.handled).turn =
      some s.handled := by
    cases sent <;> rfl
  refine ⟨?_, ?_, ?_, ?_, ?_, ?_⟩
  · exact h.requests.pop hqueue requested_of_progress
  · cases sent with
    | false => exact h.replies.keep (c := c) (by simp [hc]) answered_of_progress
    | true => exact h.replies.push hstub (by simp [hc]) (by simp) answered_of_progress
  · intro d turn hd
    simp only [Function.update_apply] at hd
    split at hd
    · rw [hturn] at hd
      cases hd
      exact Nat.lt_succ_self _
    · exact Nat.lt_succ_of_lt (h.turn_lt d turn hd)
  · intro d e turn hd he
    simp only [Function.update_apply] at hd he
    split at hd <;> split at he
    next hdc hec => rw [hdc, hec]
    next hdc hec =>
      rw [hturn] at hd
      cases hd
      exact absurd (h.turn_lt e _ he) (Nat.lt_irrefl _)
    next hdc hec =>
      rw [hturn] at he
      cases he
      exact absurd (h.turn_lt d _ hd) (Nat.lt_irrefl _)
    next => exact h.turn_inj d e turn hd he
  · intro d turn updated outcome hd
    simp only [Function.update_apply] at hd
    split at hd
    · cases sent <;> cases hd
    · exact h.updated_lt d turn updated outcome hd
  · intro uid agent hagent
    rcases handle_eq_some hagent with ⟨huid, hannounces, rfl⟩ | ⟨huid, hagent⟩
    · refine ⟨c, s.handled, huid, hannounces, ?_, ?_, ?_⟩
      · simp only [Function.update_self]
        exact hturn
      · intro d turn' _ hd
        simp only [Function.update_apply] at hd
        split at hd
        · cases hd
          exact Nat.le_refl _
        · exact Nat.le_of_lt (h.turn_lt d turn' hd)
      · simp [Serving]
    · obtain ⟨x, turn, hxuid, hannounces, hx, hlast, hserving⟩ := h.named uid agent hagent
      have hne : ∀ d, (calls d).uid = uid → d ≠ c := by
        rintro d hd rfl
        exact huid hd
      refine ⟨x, turn, hxuid, hannounces, ?_, ?_, ?_⟩
      · simp only [Function.update_of_ne (hne x hxuid)]
        exact hx
      · intro d turn' hd hd'
        simp only [Function.update_of_ne (hne d hd)] at hd'
        exact hlast d turn' hd hd'
      · exact serving_of_progress hserving (hne x hxuid) (by simp [hc]) rfl rfl

/-- A call that updates the registry of its stub overtakes the registration whose object it
removes. -/
private theorem serving_of_update (h : Current calls s) {c x : CallId} {turn turn' : Nat}
    {result : Except String Unit} {outcome : Except Exception Unit}
    {registry : LockingAgentRegistry CallId} (hc : s.progress c = .returned turn result)
    (hfinish : (Stub.finish (s.lockingAgentRegistry (calls c).stub) c (calls c) result).2 =
      some registry)
    (hprogress : t.progress =
      Function.update s.progress c (.finished turn (some s.updates) outcome))
    (hregistry : t.lockingAgentRegistry =
      Function.update s.lockingAgentRegistry (calls c).stub registry)
    (hxc : x ≠ c) (hx : (s.progress x).turn = some turn')
    (hlast : (calls c).uid = (calls x).uid → turn ≤ turn') (hserving : Serving calls s x) :
    Serving calls t x := by
  by_cases hsame : (calls c).stub = (calls x).stub ∧ (calls c).uid = (calls x).uid
  · have hxt : t.progress x = s.progress x := by rw [hprogress, Function.update_of_ne hxc]
    have hct : t.progress c = .finished turn (some s.updates) outcome := by
      rw [hprogress, Function.update_self]
    have hne : turn ≠ turn' := by
      rintro rfl
      exact hxc (h.turn_inj x c turn hx (by rw [hc]; rfl))
    have hlt : turn < turn' := Nat.lt_of_le_of_ne (hlast hsame.2) hne
    rw [Serving, hxt]
    rcases serving_cases hserving with ⟨_, hp⟩ | ⟨_, hp⟩ | ⟨_, updated, outcome', hp, -⟩
    · rw [hp]
      trivial
    · rw [hp]
      trivial
    · rw [hp] at hx ⊢
      cases hx
      exact .inr ⟨c, turn', turn, updated, s.updates, outcome', outcome, hsame.1, hsame.2,
        hxt.trans hp, hct, hlt, h.updated_lt x turn' updated outcome' hp⟩
  · refine serving_of_progress hserving hxc (by simp [hc]) hprogress ?_
    rw [hregistry]
    by_cases hstub : (calls x).stub = (calls c).stub
    · rw [hstub, Function.update_self]
      exact Stub.finish_other hfinish fun huid => hsame ⟨hstub.symm, huid.symm⟩
    · rw [Function.update_of_ne hstub]

/-- A call that updates the registry of its stub. -/
private theorem current_update (h : Current calls s) {c : CallId} {turn : Nat}
    {result : Except String Unit} {outcome : Except Exception Unit}
    {registry : LockingAgentRegistry CallId} (hc : s.progress c = .returned turn result)
    (hfinish : (Stub.finish (s.lockingAgentRegistry (calls c).stub) c (calls c) result).2 =
      some registry) :
    Current calls
      { s with
        lockingAgentRegistry := Function.update s.lockingAgentRegistry (calls c).stub registry
        progress := Function.update s.progress c (.finished turn (some s.updates) outcome)
        updates := s.updates + 1 } := by
  have hturns : ∀ d, (Function.update s.progress c
      (.finished turn (some s.updates) outcome) d).turn = (s.progress d).turn := by
    intro d
    by_cases hdc : d = c
    · subst hdc
      rw [Function.update_self, hc]
      rfl
    · rw [Function.update_of_ne hdc]
  refine ⟨?_, ?_, ?_, ?_, ?_, ?_⟩
  · exact h.requests.keep (c := c) (by simp [hc]) requested_of_progress
  · exact h.replies.keep (c := c) (by simp [hc]) answered_of_progress
  · intro d turn' hd
    exact h.turn_lt d turn' (hturns d ▸ hd)
  · intro d e turn' hd he
    exact h.turn_inj d e turn' (hturns d ▸ hd) (hturns e ▸ he)
  · intro d turn' updated outcome' hd
    simp only [Function.update_apply] at hd
    split at hd
    · cases hd
      exact Nat.lt_succ_self _
    · exact Nat.lt_succ_of_lt (h.updated_lt d turn' updated outcome' hd)
  · intro uid agent hagent
    obtain ⟨x, turn', huid, hannounces, hx, hlast, hserving⟩ := h.named uid agent hagent
    refine ⟨x, turn', huid, hannounces, (hturns x).trans hx, ?_, ?_⟩
    · intro d turn'' hd hd'
      exact hlast d turn'' hd (hturns d ▸ hd')
    · by_cases hxc : x = c
      · subst hxc
        cases result with
        | error text => simp only [Serving, hc] at hserving
        | ok value =>
          rw [Stub.finish_registry, hannounces] at hfinish
          cases hfinish
          simp [Serving, LockingAgentRegistry.registerAgentForUser]
      · refine serving_of_update h hc hfinish rfl rfl hxc hx (fun hcx => ?_) hserving
        exact hlast c turn (hcx.trans huid) (by rw [hc]; rfl)

/-- A call that fails to register its agent. -/
private theorem current_fail (h : Current calls s) {c : CallId} {turn : Nat}
    {result : Except String Unit} {outcome : Except Exception Unit}
    (hc : s.progress c = .returned turn result)
    (hfinish : (Stub.finish (s.lockingAgentRegistry (calls c).stub) c (calls c) result).2 = none) :
    Current calls
      { s with progress := Function.update s.progress c (.finished turn none outcome) } := by
  apply current_of_progress h (by simp [hc]) (by simp) (by rw [hc]; rfl)
  · exact h.requests.keep (c := c) (by simp [hc]) requested_of_progress
  · exact h.replies.keep (c := c) (by simp [hc]) answered_of_progress
  · intro hserving
    cases result with
    | error text => simp only [Serving, hc] at hserving
    | ok value =>
      rw [Stub.finish_registry] at hfinish
      cases hannounces : (calls c).announces <;> rw [hannounces] at hfinish <;> cases hfinish

/-- Every step keeps what holds throughout a run. -/
theorem current_step (h : Current calls s) (hstep : step calls s label = some t) :
    Current calls t := by
  cases label with
  | invoke c =>
    simp only [step] at hstep
    split at hstep
    next hc =>
      cases hstep
      exact current_invoke h hc
    next => cases hstep
  | handle p sent =>
    simp only [step] at hstep
    split at hstep
    next c rest hqueue =>
      cases hstep
      exact current_handle h hqueue sent
    next => cases hstep
  | reply p =>
    simp only [step] at hstep
    split at hstep
    next c rest hqueue =>
      split at hstep
      next turn hc =>
        cases hstep
        exact current_reply h hqueue hc
      next => cases hstep
    next => cases hstep
  | timeOut c text =>
    simp only [step] at hstep
    split at hstep
    next turn hc =>
      cases hstep
      exact current_timeOut h hc
    next => cases hstep
  | finish c =>
    simp only [step] at hstep
    split at hstep
    next turn result hc =>
      split at hstep
      next outcome registry hfinish =>
        cases hstep
        exact current_update h hc (by rw [hfinish])
      next outcome hfinish =>
        cases hstep
        exact current_fail h hc (by rw [hfinish])
    next => cases hstep

private theorem current_start : Current calls start where
  requests := ⟨by simp [start], by simp [start]⟩
  replies := ⟨by simp [start], by simp [start]⟩
  turn_lt c turn h := by cases h
  turn_inj c d turn h := by cases h
  updated_lt c turn updated outcome h := by cases h
  named uid agent h := by cases h

/-- In every state of every run, for every object that the skeleton's registry names for a user:
it was announced by a registration for this user, and the stub keeps it alive, unless another call
of the stub for the user, which the skeleton handled before, updated the registry of the stub after
the registration did. -/
theorem keptAlive_run {labels : List Label}
    (hrun : Transition.run (step calls) start labels = some t) {uid : Uid} {agent : AgentStub}
    (h : t.impl uid = some agent) : ∃ c, (calls c).uid = uid ∧ (calls c).announces = some agent ∧
      (KeptAlive calls t c ∨ Overtaken calls t c) := by
  have hcurrent := Transition.invariant_run (fun _ _ _ hs _ hstep => current_step hs hstep)
    current_start (Transition.meets_true start labels) hrun
  obtain ⟨c, turn, huid, hannounces, -, -, hserving⟩ := hcurrent.named uid agent h
  refine ⟨c, huid, hannounces, ?_⟩
  rcases serving_cases hserving with ⟨_, hc⟩ | ⟨_, hc⟩ | ⟨_, _, _, -, hkept⟩
  · exact .inl (.inl (by rw [hc]; trivial))
  · exact .inl (.inl (by rw [hc]; trivial))
  · exact hkept.imp_left .inr

/-- Two registrations of one stub for the user 1000, each by a thread of its own. -/
def registrations : CallId → Call
  | 0 => ⟨0, ":1.7", .registerAgentForUser (countingObjectPathGenerator 0), ⟨1000⟩⟩
  | 1 => ⟨0, ":1.7", .registerAgentForUser (countingObjectPathGenerator 1), ⟨1000⟩⟩
  | _ => ⟨0, ":1.7", .unregisterAgentForUser, ⟨1000⟩⟩

/-- Both registrations are handled and their replies arrive. -/
def bothReplied : List Label :=
  [.invoke 0, .invoke 1, .handle 0 true, .handle 0 true, .reply 0, .reply 0]

/-- The threads go on in the order of their messages. -/
theorem keptAlive_inOrder : ∃ t,
    Transition.run (step registrations) start (bothReplied ++ [.finish 0, .finish 1]) = some t ∧
      t.lockingAgentRegistry 0 ⟨1000⟩ = some 1 ∧
      ∃ c, (registrations c).uid = ⟨1000⟩ ∧
        (registrations c).announces = some ⟨":1.7", countingObjectPathGenerator 1⟩ ∧
        (KeptAlive registrations t c ∨ Overtaken registrations t c) := by
  refine ⟨_, rfl, rfl, ?_⟩
  have hrun : Transition.run (step registrations) start
      (bothReplied ++ [.finish 0, .finish 1]) = some _ := rfl
  exact keptAlive_run hrun rfl

/-- The thread of the first registration goes on last: no object at the path that the skeleton's
registry names is kept alive. -/
theorem not_keptAlive_overtaken : ∃ t,
    Transition.run (step registrations) start (bothReplied ++ [.finish 1, .finish 0]) = some t ∧
      t.impl ⟨1000⟩ = some ⟨":1.7", countingObjectPathGenerator 1⟩ ∧
      ∀ c, (registrations c).announces = some ⟨":1.7", countingObjectPathGenerator 1⟩ →
        ¬KeptAlive registrations t c := by
  refine ⟨_, rfl, rfl, fun c hc => ?_⟩
  match c with
  | 0 => exact absurd hc (by decide)
  | 1 =>
    rintro (hinFlight | hregistered)
    · exact hinFlight
    · exact absurd hregistered (by decide)
  | c + 2 => cases hc

end TrustStore.Dbus.AgentRegistry
