import TrustStore.Dbus.Expose

/-!
# Replies of the exposed store

How many replies a handler sends. Add, RemoveApplication and AddQuery answer every call once.
The other handlers pass exceptions of the store on instead of replying, Reset sends a return
behind its error, and RemoveQuery always replies twice.
-/

namespace TrustStore.Dbus

open TrustStore.Base
open TrustStore.Base.Fallible (Returns)

variable {σ κ : Type}

/-- The handler sends one reply. -/
def SendsOne (handler : Action (Token σ κ) PUnit) (t : Token σ κ) : Prop :=
  ∃ reply, (handler.exec t).2.sent = t.sent ++ [reply]

/-- A message starts with a value that satisfies a predicate. -/
def Decodes (α : Type) [Codec α] (msg : Message) (p : α → Prop) : Prop :=
  ∃ a rest, (Codec.decode : Reader α).exec msg = (.ok a, rest) ∧ p a

/-- The message of a call has the arguments of the method. -/
def WellFormed (msg : Message) : Token.Method κ → Prop
  | .add => Decodes Request msg fun _ => True
  | .removeApplication => Decodes String msg fun _ => True
  | .reset | .addQuery => True
  | .removeQuery => Decodes ObjectPath msg fun _ => True
  | .onQuery _ method =>
    match method with
    | .forAnswer => Decodes Answer msg fun _ => True
    | .forApplicationId => Decodes String msg fun _ => True
    | .forFeature => Decodes Feature msg fun _ => True
    | .forInterval => Decodes (Int64 × Int64) msg fun _ => True
    | .all | .current | .erase | .execute | .next | .status => True

/-- The operation that a call asks for ends in a way that its handler answers once. -/
def AnsweredOnce (store : Store σ κ) (msg : Message) (s : σ) : Token.Method κ → Prop
  | .add | .removeApplication | .addQuery => True
  | .reset => Returns store.reset s
  | .removeQuery => False
  | .onQuery q method =>
    match method with
    | .all => Returns (store.all q) s
    | .current => Returns (store.current q) s ∨
        ∃ t, (store.current q).exec s = (.error .noCurrentResult, t)
    | .erase => Returns (store.erase q) s
    | .execute => Returns (store.execute q) s
    | .forAnswer => Decodes Answer msg fun answer => Returns (store.forAnswer q answer) s
    | .forApplicationId => Decodes String msg fun id => Returns (store.forApplicationId q id) s
    | .forFeature => Decodes Feature msg fun feature => Returns (store.forFeature q feature) s
    | .forInterval => Decodes (Int64 × Int64) msg fun interval =>
        Returns (store.forInterval q interval.1 interval.2) s
    | .next => Returns (store.next q) s
    | .status => Returns (store.status q) s

/-- What the operations whose exceptions are answered throw are runtime errors. -/
structure ThrowsRuntimeErrors (store : Store σ κ) : Prop where
  add : ∀ request s e t, (store.add request).exec s = (.error e, t) → e.isRuntimeError = true
  removeApplication : ∀ id s e t, (store.removeApplication id).exec s = (.error e, t) →
    e.isRuntimeError = true
  query : ∀ s e t, store.query.exec s = (.error e, t) → e.isRuntimeError = true

/-! ### Single handlers -/

private theorem sendsOne_of_sent {handler : Action (Token σ κ) PUnit} {t u : Token σ κ}
    {r : Except Exception PUnit} {reply : Reply} (h : handler.exec t = (r, u))
    (hsent : u.sent = t.sent ++ [reply]) : SendsOne handler t :=
  ⟨reply, by rw [h]; exact hsent⟩

private theorem not_sendsOne_of_none {handler : Action (Token σ κ) PUnit} {t u : Token σ κ}
    {r : Except Exception PUnit} (h : handler.exec t = (r, u)) (hsent : u.sent = t.sent) :
    ¬ SendsOne handler t := by
  rintro ⟨reply, hreply⟩
  rw [h] at hreply
  simp [hsent] at hreply

private theorem not_sendsOne_of_two {handler : Action (Token σ κ) PUnit} {t u : Token σ κ}
    {r : Except Exception PUnit} {first second : Reply} (h : handler.exec t = (r, u))
    (hsent : u.sent = t.sent ++ [first] ++ [second]) : ¬ SendsOne handler t := by
  rintro ⟨reply, hreply⟩
  rw [h] at hreply
  simp [hsent] at hreply

private theorem replyAfter_iff (change : Action σ PUnit) (t : Token σ κ) :
    SendsOne (Token.replyAfter change) t ↔ Returns change t.store := by
  rcases h : change.exec t.store with ⟨_ | _, s⟩
  · refine iff_of_false (not_sendsOne_of_none (Token.replyAfter_error h) rfl) ?_
    rintro ⟨a, u, hreturns⟩
    simp [h] at hreturns
  · exact iff_of_true (sendsOne_of_sent (Token.replyAfter_ok h) rfl) ⟨_, _, h⟩

/-- A handler that reads its argument first behaves as its rest does for that argument. -/
private theorem sendsOne_read {α : Type} [Codec α] {msg : Message} {p : α → Prop}
    {rest : α → Action (Token σ κ) PUnit} {t : Token σ κ}
    (hwf : Decodes α msg fun _ => True) (hrest : ∀ a, SendsOne (rest a) t ↔ p a) :
    SendsOne (Token.read α msg >>= rest) t ↔ Decodes α msg p := by
  obtain ⟨a, remainder, ha, -⟩ := hwf
  have hread : (Token.read α msg >>= rest).exec t = (rest a).exec t :=
    Fallible.exec_bind_ok (Token.read_exec ha t)
  rw [SendsOne, hread]
  constructor
  · intro hone
    exact ⟨a, remainder, ha, (hrest a).mp hone⟩
  · rintro ⟨a', remainder', ha', hp⟩
    rw [ha] at ha'
    cases ha'
    exact (hrest a).mpr hp

private theorem replyOrError_sendsOne (name : ErrorName) {change : Action σ PUnit}
    (hthrows : ∀ s e t, change.exec s = (.error e, t) → e.isRuntimeError = true)
    (t : Token σ κ) : SendsOne (Token.replyOrError name change) t := by
  rcases h : change.exec t.store with ⟨e | _, s⟩
  · exact sendsOne_of_sent (Token.replyOrError_error h (hthrows _ _ _ h)) rfl
  · exact sendsOne_of_sent (Token.replyOrError_ok h) rfl

private theorem handleReset_iff (store : Store σ κ) (t : Token σ κ) :
    SendsOne (Token.handleReset store) t ↔ Returns store.reset t.store := by
  rcases h : store.reset.exec t.store with ⟨e | _, s⟩
  · refine iff_of_false ?_ (by rintro ⟨a, u, hreturns⟩; simp [h] at hreturns)
    cases he : Token.isErrorResettingStore e with
    | true => exact not_sendsOne_of_two (Token.handleReset_taken h he) rfl
    | false => exact not_sendsOne_of_none (Token.handleReset_passed h he) rfl
  · exact iff_of_true (sendsOne_of_sent (Token.handleReset_ok h) rfl) ⟨_, _, h⟩

private theorem handleAddQuery_sendsOne (store : Store σ κ)
    (hthrows : ∀ s e t, store.query.exec s = (.error e, t) → e.isRuntimeError = true)
    (t : Token σ κ) : SendsOne (Token.handleAddQuery store) t := by
  rcases h : store.query.exec t.store with ⟨e | query, s⟩
  · exact sendsOne_of_sent (Token.handleAddQuery_error h (hthrows _ _ _ h)) rfl
  · exact sendsOne_of_sent (Token.handleAddQuery_ok h) rfl

private theorem handleRemoveQuery_not_sendsOne (store : Store σ κ) {msg : Message} (t : Token σ κ)
    (hwf : Decodes ObjectPath msg fun _ => True) :
    ¬ SendsOne (Token.handleRemoveQuery store msg) t := by
  obtain ⟨path, rest, hpath, -⟩ := hwf
  exact not_sendsOne_of_two (Token.handleRemoveQuery_exec hpath t) rfl

private theorem replyWith_iff {α : Type} [Codec α] (question : Action σ α) (t : Token σ κ) :
    SendsOne (Token.replyWith question) t ↔ Returns question t.store := by
  rcases h : question.exec t.store with ⟨_ | a, s⟩
  · refine iff_of_false (not_sendsOne_of_none (Token.replyWith_error h) rfl) ?_
    rintro ⟨a, u, hreturns⟩
    simp [h] at hreturns
  · exact iff_of_true (sendsOne_of_sent (Token.replyWith_ok h) rfl) ⟨a, s, h⟩

private theorem handleCurrent_iff (store : Store σ κ) (q : κ) (t : Token σ κ) :
    SendsOne (Token.handleCurrent store q) t ↔ Returns (store.current q) t.store ∨
      ∃ u, (store.current q).exec t.store = (.error .noCurrentResult, u) := by
  rcases h : (store.current q).exec t.store with ⟨e | request, s⟩
  · cases he : Token.isNoCurrentResult e with
    | true =>
      obtain rfl : e = .noCurrentResult := by
        cases e <;> simp [Token.isNoCurrentResult] at he
        rfl
      exact iff_of_true (sendsOne_of_sent (Token.handleCurrent_taken h) rfl) (.inr ⟨s, rfl⟩)
    | false =>
      refine iff_of_false (not_sendsOne_of_none (Token.handleCurrent_passed h he) rfl) ?_
      rintro (⟨a, u, hreturns⟩ | ⟨u, hthrows⟩)
      · simp [h] at hreturns
      · cases hthrows
        simp [Token.isNoCurrentResult] at he
  · exact iff_of_true (sendsOne_of_sent (Token.handleCurrent_ok h) rfl) (.inl ⟨_, _, h⟩)

/-- Exactly which calls are answered once: those whose operation ends well for the handler, and
no call that removes a query. -/
theorem sendsOne_iff {store : Store σ κ} (hthrows : ThrowsRuntimeErrors store) {msg : Message}
    {method : Token.Method κ} (hwf : WellFormed msg method) (t : Token σ κ) :
    SendsOne (Token.handle store msg method) t ↔ AnsweredOnce store msg t.store method := by
  cases method with
  | add =>
    refine (sendsOne_read (p := fun _ => True) hwf fun request => ?_).trans
      (iff_of_true hwf trivial)
    exact iff_of_true (replyOrError_sendsOne _ (hthrows.add request) t) trivial
  | removeApplication =>
    refine (sendsOne_read (p := fun _ => True) hwf fun id => ?_).trans
      (iff_of_true hwf trivial)
    exact iff_of_true (replyOrError_sendsOne _ (hthrows.removeApplication id) t) trivial
  | reset => exact handleReset_iff store t
  | addQuery => exact iff_of_true (handleAddQuery_sendsOne store hthrows.query t) trivial
  | removeQuery => exact iff_of_false (handleRemoveQuery_not_sendsOne store t hwf) id
  | onQuery q method =>
    cases method with
    | all => exact replyAfter_iff _ t
    | current => exact handleCurrent_iff store q t
    | erase => exact replyAfter_iff _ t
    | execute => exact replyAfter_iff _ t
    | forAnswer => exact sendsOne_read hwf fun _ => replyAfter_iff _ t
    | forApplicationId => exact sendsOne_read hwf fun _ => replyAfter_iff _ t
    | forFeature => exact sendsOne_read hwf fun _ => replyAfter_iff _ t
    | forInterval => exact sendsOne_read hwf fun _ => replyAfter_iff _ t
    | next => exact replyAfter_iff _ t
    | status => exact replyWith_iff _ t

/-- A store that is always empty and cannot be reset. -/
def unresettable : Store PUnit PUnit where
  reset := throw (.runtimeError "No permission to reset.")
  add _ := return
  removeApplication _ := return
  query := return ⟨⟩
  destroy _ s := s
  status _ := return .eor
  forApplicationId _ _ := return
  forFeature _ _ := return
  forInterval _ _ _ := return
  forAnswer _ _ := return
  all _ := return
  execute _ := return
  next _ := return
  erase _ := return
  current _ := throw .noCurrentResult

/-- The store is exposed, and has no queries. -/
def exposed : Token PUnit PUnit := ⟨⟨⟩, 0, fun _ => none, []⟩

private theorem unresettable_throws : ThrowsRuntimeErrors unresettable where
  add _ _ _ _ h := by cases h
  removeApplication _ _ _ _ h := by cases h
  query _ _ _ h := by cases h

/-- A call of Current without a current result is answered once, with an error. -/
theorem sendsOne_iff_current :
    SendsOne (Token.handle unresettable [] (.onQuery ⟨⟩ .current)) exposed ∧
      (SendsOne (Token.handle unresettable [] (.onQuery ⟨⟩ .current)) exposed ↔
        AnsweredOnce unresettable [] exposed.store (.onQuery ⟨⟩ .current)) :=
  have hwf : WellFormed [] (.onQuery ⟨⟩ .current : Token.Method PUnit) := trivial
  have h := sendsOne_iff unresettable_throws hwf exposed
  ⟨h.mpr (.inr ⟨⟨⟩, rfl⟩), h⟩

/-- A call of RemoveQuery is not answered once. -/
theorem not_sendsOne_removeQuery :
    ¬ (∀ (msg : Message) (method : Token.Method PUnit), WellFormed msg method →
      SendsOne (Token.handle unresettable msg method) exposed) := by
  intro h
  have hwf : WellFormed (κ := PUnit) [.objectPath ⟨"/queries/0"⟩] .removeQuery :=
    ⟨_, _, rfl, trivial⟩
  exact handleRemoveQuery_not_sendsOne unresettable exposed hwf (h _ _ hwf)

end TrustStore.Dbus
