import TrustStore.Agents.Helper
import TrustStore.Base.Istream
import TrustStore.Core.Store

/-!
# Answers that are seeded from the command line

Models `Preseed`, `src/core/trust/preseed.cpp`, the executable that adds requests with their answers
to the store of a service before anybody was asked. Splitting the command line into options is left
to Boost. A request is extracted from its text field by field, and nobody looks at the state of the
stream: only an answer that is neither of the two words makes the executable give up.
-/

namespace TrustStore.Preseed

open TrustStore.Base

variable {σ κ : Type}

/-- `operator>>(std::istream&, Feature&)`; `src/core/trust/preseed.cpp:27–30`. -/
def extractFeature (feature : Feature) : Action Istream Feature := do
  return ⟨← Istream.extractUInt64 feature.value⟩

/-- `operator>>(std::istream&, Request::Answer&)`; `src/core/trust/preseed.cpp:32–44`. -/
def extractAnswer : Action Istream Answer := do
  let s ← Istream.extractString ""
  if s = "denied" then return .denied
  else if s = "granted" then return .granted
  else throw (.logicError ("Could not parse answer: " ++ s))

/-- `ss >> r.from >> r.feature >> r.answer`; `src/core/trust/preseed.cpp:79`. -/
def extractRequest (now : Timestamp) : Action Istream Request := do
  let origin ← Istream.extractString ""
  let feature ← extractFeature ⟨0⟩
  let answer ← extractAnswer
  return ⟨origin, feature, now, answer⟩

/-- The body of the loop over the requests, at the time of one of them;
`src/core/trust/preseed.cpp:76–83`. -/
def parseRequest (now : Timestamp) (request : String) : Except Exception Request :=
  ((extractRequest now).exec (Istream.ofString request)).1

/-- The loop over the requests, where `now n` is the time of the one that comes `n` requests later;
`src/core/trust/preseed.cpp:74–84`. -/
def parseRequests (now : Nat → Timestamp) : List String → Except Exception (List Request)
  | [] => return []
  | request :: requests => do
    let r ← parseRequest (now 0) request
    let rs ← parseRequests (fun n => now (n + 1)) requests
    return r :: rs

/-- The options of the command line, once parsed: an option that was not given cannot be cast to
its type; `src/core/trust/preseed.cpp:48–66`. -/
structure VariablesMap where
  forService : String
  request : List String
  given : request ≠ []

/-- What the executable takes from the system that it runs on. -/
structure Environment (σ κ : Type) where
  /-- `create_default_store` -/
  createDefaultStore : String → Except Exception (Store σ κ)
  /-- `std::chrono::system_clock::now`, for each of the requests -/
  now : Nat → Timestamp

/-- `Preseed::Configuration`; `src/core/trust/preseed.h:64–72`. -/
structure Configuration (σ κ : Type) where
  store : Store σ κ
  requests : List Request

/-- `Configuration::parse_from_command_line`, past the parsing of the command line;
`src/core/trust/preseed.cpp:65–87`. -/
def parseFromCommandLine (env : Environment σ κ) (vm : VariablesMap) :
    Except Exception (Configuration σ κ) := do
  let store ← env.createDefaultStore vm.forService
  let requests ← parseRequests env.now vm.request
  return ⟨store, requests⟩

/-- `Preseed::main`; `src/core/trust/preseed.cpp:89–95`. -/
def main (configuration : Configuration σ κ) : Action σ UInt8 := do
  configuration.requests.forM configuration.store.add
  return ExitStatus.success

/-- The executable; `src/core/trust/preseed_main.cpp:21–26`. -/
def run (env : Environment σ κ) (vm : VariablesMap) : Action σ UInt8 :=
  match parseFromCommandLine env vm with
  | .error e => throw e
  | .ok configuration => main configuration

/-! ### The loop over the requests -/

variable {now : Nat → Timestamp} {requests : List String} {rs : List Request} {e : Exception}

/-- If the loop comes to its end then every request was parsed. -/
theorem parseRequests_ok (h : parseRequests now requests = .ok rs) {n : Nat} {s : String}
    (hs : requests[n]? = some s) : ∃ r, parseRequest (now n) s = .ok r ∧ rs[n]? = some r := by
  induction requests generalizing now rs n with
  | nil => cases hs
  | cons request requests ih =>
    obtain ⟨r, hr, htail⟩ := bind_eq_ok h
    obtain ⟨rs', hrs, hpure⟩ := bind_eq_ok htail
    cases hpure
    cases n with
    | zero =>
      cases hs
      exact ⟨r, hr, rfl⟩
    | succ n => exact ih hrs hs

/-- If the loop throws then one of the requests was not parsed. -/
theorem parseRequests_error (h : parseRequests now requests = .error e) :
    ∃ s ∈ requests, ∃ time, parseRequest time s = .error e := by
  induction requests generalizing now with
  | nil => cases h
  | cons request requests ih =>
    rcases bind_eq_error h with hr | ⟨r, -, htail⟩
    · exact ⟨request, List.mem_cons_self .., now 0, hr⟩
    · rcases bind_eq_error htail with hrs | ⟨rs, -, hpure⟩
      · obtain ⟨s, hs, htime⟩ := ih hrs
        exact ⟨s, List.mem_cons_of_mem request hs, htime⟩
      · cases hpure

/-- A configuration holds the requests of the loop. -/
theorem parseFromCommandLine_ok {env : Environment σ κ} {vm : VariablesMap}
    {configuration : Configuration σ κ}
    (h : parseFromCommandLine env vm = .ok configuration) :
    env.createDefaultStore vm.forService = .ok configuration.store ∧
      parseRequests env.now vm.request = .ok configuration.requests := by
  obtain ⟨store, hstore, htail⟩ := bind_eq_ok h
  obtain ⟨requests, hrequests, hpure⟩ := bind_eq_ok htail
  cases hpure
  exact ⟨hstore, hrequests⟩

/-- Otherwise the store was not created, or one of the requests was not parsed. -/
theorem parseFromCommandLine_error {env : Environment σ κ} {vm : VariablesMap}
    (h : parseFromCommandLine env vm = .error e) :
    env.createDefaultStore vm.forService = .error e ∨
      ∃ s ∈ vm.request, ∃ time, parseRequest time s = .error e := by
  rcases bind_eq_error h with hstore | ⟨store, -, htail⟩
  · exact .inl hstore
  · rcases bind_eq_error htail with hrequests | ⟨requests, -, hpure⟩
    · exact .inr (parseRequests_error hrequests)
    · cases hpure

end TrustStore.Preseed
