import TrustStore.Remote.Loops

/-!
# Reading after the end of the stream

The read loop of a skeleton, `src/core/trust/remote/posix.cpp:279–309`, on the bytes that its peer
sends before it closes the connection. The handler starts the next read after every error but one,
and the end of the stream is not the one.
-/

namespace TrustStore.Remote.Posix.Skeleton

open TrustStore.Base

/-- `sizeof(Request)` -/
def sizeofRequest : Nat := 24

/-- What a handler finds: the functions of the configuration, and whether an answer can be
written. -/
structure Environment where
  config : Configuration PUnit
  write : Answer → Except Exception Unit

/-- The skeleton and its socket. -/
structure Reader where
  /-- what is left of the bytes from the peer -/
  incoming : List UInt8
  /-- the memory of `Skeleton::request` -/
  request : List UInt8
  answers : List Answer
  outstanding : Bool
  /-- the number of reads that were started -/
  reads : Nat
  deriving DecidableEq

namespace Reader

/-- `Skeleton::start_read`; `src/core/trust/remote/posix.cpp:279–290`. -/
def startRead (s : Reader) : Reader := { s with outstanding := true, reads := s.reads + 1 }

/-- A skeleton that was just connected, with the bytes that will come;
`src/core/trust/remote/posix.cpp:237–250`. -/
def connected (bytes : List UInt8) : Reader :=
  startRead ⟨bytes, List.replicate sizeofRequest 0, [], false, 0⟩

/-- The result of `boost::asio::async_read` once the peer has closed: the bytes of a request, or
the end of the stream. -/
def asyncRead (incoming : List UInt8) : Option AsyncError × Nat :=
  if incoming.length < sizeofRequest then (some .other, incoming.length) else (none, sizeofRequest)

/-- The bytes that were read are moved to the request. -/
def receive (s : Reader) (size : Nat) : Reader :=
  { s with
    incoming := s.incoming.drop size
    request := s.incoming.take size ++ s.request.drop size
    outstanding := false }

/-- `boost::asio::write`, which may throw. -/
def write (env : Environment) (answer : Answer) : Action Reader Unit := do
  match env.write answer with
  | .ok _ => modify fun s => { s with answers := s.answers ++ [answer] }
  | .error e => throw e

/-- How the bytes of a request lie in memory. -/
abbrev Layout := List UInt8 → Request

variable (layout : Layout)

/-- `Skeleton::on_read_finished`; `src/core/trust/remote/posix.cpp:292–309`. -/
def onReadFinished (env : Environment) (ec : Option AsyncError) (size : Nat) :
    Action Reader Unit :=
  if ec = some .operationAborted then return
  else if ec.isSome then modify startRead
  else if size ≠ sizeofRequest then return
  else do
    let answer ← Fallible.ofFn fun s =>
      (((processIncomingRequest env.config (layout s.request)).exec ⟨⟩).1, s)
    write env answer
    modify startRead

/-- An outstanding read completes, and its handler runs. An exception that leaves the handler is
dropped by the worker; `src/core/trust/runtime.cpp:28–46`. -/
def complete (env : Environment) (s : Reader) : Reader :=
  if s.outstanding then
    let (ec, size) := asyncRead s.incoming
    ((onReadFinished layout env ec size).exec (s.receive size)).2
  else s

/-- The skeleton after some completions, each with what its handler finds. -/
def after (env : Nat → Environment) (bytes : List UInt8) : Nat → Reader
  | 0 => connected bytes
  | n + 1 => complete layout (env n) (after env bytes n)

/-- The requests in a sequence of bytes, from the first to the last complete one. -/
def requestAt (bytes : List UInt8) (n : Nat) : Option Request :=
  if bytes.length < (n + 1) * sizeofRequest then none
  else some (layout ((bytes.drop (n * sizeofRequest)).take sizeofRequest))

/-- Every request is served, and its answer is written. -/
def ProcessedNormally (env : Nat → Environment) (bytes : List UInt8) : Prop :=
  ∀ n request, requestAt layout bytes n = some request →
    Served (env n).config request ∧ ∀ answer, (env n).write answer = .ok ()

/-- The skeleton starts finitely many reads. -/
def EndsWithInput (env : Nat → Environment) (bytes : List UInt8) : Prop :=
  ∃ bound, ∀ n, (after layout env bytes n).reads ≤ bound

variable {layout : Layout}

/-- At the end of the stream the handler starts the next read. -/
theorem complete_of_end (env : Environment) {s : Reader} (houtstanding : s.outstanding = true)
    (hend : s.incoming.length < sizeofRequest) :
    complete layout env s = (s.receive s.incoming.length).startRead := by
  simp [complete, houtstanding, asyncRead, hend, onReadFinished]

/-- After a request that is processed normally the handler starts the next read. -/
theorem complete_of_request {env : Environment} {s : Reader} (houtstanding : s.outstanding = true)
    (hlength : sizeofRequest ≤ s.incoming.length)
    (hserved : Served env.config (layout (s.incoming.take sizeofRequest ++
      s.request.drop sizeofRequest)))
    (hwrite : ∀ answer, env.write answer = .ok ()) :
    ∃ answer, complete layout env s =
      startRead { s.receive sizeofRequest with answers := s.answers ++ [answer] } := by
  obtain ⟨answer, hanswer⟩ := served_iff.mp hserved
  refine ⟨answer, ?_⟩
  rw [complete, if_pos houtstanding, asyncRead, if_neg (Nat.not_lt.mpr hlength)]
  simp [onReadFinished, receive, hanswer, write, hwrite]

/-- After `n` completions another read is outstanding, for what follows the first `n` requests. -/
private structure Reading (bytes : List UInt8) (n : Nat) (s : Reader) : Prop where
  outstanding : s.outstanding = true
  incoming : s.incoming = bytes.drop (n * sizeofRequest)
  request : s.request.length = sizeofRequest
  reads : s.reads = n + 1

private theorem reading_connected (bytes : List UInt8) : Reading bytes 0 (connected bytes) where
  outstanding := rfl
  incoming := by simp [connected, startRead]
  request := List.length_replicate
  reads := rfl

private theorem Reading.complete {env : Environment} {bytes : List UInt8} {n : Nat} {s : Reader}
    (h : Reading bytes n s)
    (hnormally : ∀ request, requestAt layout bytes n = some request →
      Served env.config request ∧ ∀ answer, env.write answer = .ok ()) :
    Reading bytes (n + 1) (complete layout env s) := by
  have hmore : bytes.length < (n + 1) * sizeofRequest ↔ s.incoming.length < sizeofRequest := by
    rw [h.incoming, List.length_drop, Nat.succ_mul]
    simp only [sizeofRequest]
    omega
  have hdrop : bytes.drop ((n + 1) * sizeofRequest) = s.incoming.drop sizeofRequest := by
    rw [h.incoming, List.drop_drop, Nat.succ_mul]
  by_cases hend : s.incoming.length < sizeofRequest
  · rw [complete_of_end env h.outstanding hend]
    refine ⟨rfl, ?_, ?_, congrArg (· + 1) h.reads⟩
    · rw [hdrop, List.drop_eq_nil_of_le (Nat.le_of_lt hend)]
      exact List.drop_length
    · have hrequest := h.request
      simp only [startRead, receive, List.take_length, List.length_append, List.length_drop]
      omega
  · have hbuffer : s.request.drop sizeofRequest = [] :=
      List.drop_eq_nil_of_le (Nat.le_of_eq h.request)
    obtain ⟨hserved, hwrite⟩ := hnormally _ (if_neg (mt hmore.mp hend))
    rw [← h.incoming, ← List.append_nil (s.incoming.take sizeofRequest), ← hbuffer] at hserved
    obtain ⟨answer, hcomplete⟩ :=
      complete_of_request h.outstanding (Nat.not_lt.mp hend) hserved hwrite
    rw [hcomplete]
    refine ⟨rfl, hdrop.symm, ?_, congrArg (· + 1) h.reads⟩
    simp only [startRead, receive, hbuffer, List.append_nil, List.length_take]
    omega

/-- After every completion the skeleton has started another read. -/
theorem reads_after {env : Nat → Environment} {bytes : List UInt8}
    (h : ProcessedNormally layout env bytes) (n : Nat) :
    (after layout env bytes n).reads = n + 1 := by
  suffices hreading : Reading bytes n (after layout env bytes n) from hreading.reads
  induction n with
  | zero => exact reading_connected bytes
  | succ n ih => exact ih.complete (h n)

private theorem unbounded {reads : Nat → Nat} (h : ∀ n, reads n = n + 1) (bound : Nat) :
    ¬ ∀ n, reads n ≤ bound := by
  intro hbound
  have hreads := hbound bound
  rw [h bound] at hreads
  exact Nat.not_succ_le_self bound hreads

/-- If its requests are processed normally then the read loop does not end, whatever the peer
sends before it closes the connection. -/
theorem not_endsWithInput {env : Nat → Environment} {bytes : List UInt8}
    (h : ProcessedNormally layout env bytes) : ¬EndsWithInput layout env bytes := by
  rintro ⟨bound, hbound⟩
  exact unbounded (reads_after h) bound hbound

/-- A request of the user 1000, wherever it is. -/
def anyLayout : Layout := fun _ => ⟨⟨1000⟩, ⟨42⟩, ⟨1⟩, 7⟩

/-- Requests are granted, and answers are written. -/
def granting : Environment := ⟨resolving (.ok "app"), fun _ => .ok ()⟩

/-- A request and a half. -/
def requestAndHalf : List UInt8 := List.replicate 36 1

/-- The loop goes on after a request that was granted and the end of the stream. -/
theorem not_endsWithInput_requestAndHalf :
    ProcessedNormally anyLayout (fun _ => granting) requestAndHalf ∧
      ¬EndsWithInput anyLayout (fun _ => granting) requestAndHalf := by
  have hnormally : ProcessedNormally anyLayout (fun _ => granting) requestAndHalf := by
    intro n request hrequest
    rw [requestAt] at hrequest
    split at hrequest <;> cases hrequest
    exact ⟨⟨fun _ => rfl, "app", rfl, .granted, rfl⟩, fun _ => rfl⟩
  exact ⟨hnormally, not_endsWithInput hnormally⟩

/-- The loop goes on even if the peer sends nothing. -/
theorem not_endsWithInput_nothing :
    ¬ ∀ (layout : Layout) (env : Nat → Environment) (bytes : List UInt8),
      ProcessedNormally layout env bytes → EndsWithInput layout env bytes := by
  intro h
  have hnormally : ProcessedNormally anyLayout (fun _ => granting) [] := by
    intro n request hrequest
    have hlength : ([] : List UInt8).length < (n + 1) * sizeofRequest :=
      Nat.mul_pos n.succ_pos (by decide)
    rw [requestAt, if_pos hlength] at hrequest
    cases hrequest
  obtain ⟨bound, hbound⟩ := h anyLayout (fun _ => granting) [] hnormally
  exact unbounded (reads_after hnormally) bound hbound

end Reader
end TrustStore.Remote.Posix.Skeleton
