import TrustStore.Base.Regex
import TrustStore.Core.Agent

/-!
# Agents in front of other agents

Models `PrivilegeEscalationPreventionAgent`, `WhiteListingAgent` and
`AppIdFormattingTrustAgent`. Each is created for another agent, and may answer a request
itself, reject it, or pass it on.
-/

namespace TrustStore

open TrustStore.Base

variable {σ : Type}

/-- The check of the agent to pass requests on to, which all three constructors make;
`src/core/trust/white_listing_agent.cpp:35–38`. -/
def requireImpl (impl : Option (Agent σ)) : Except Exception (Agent σ) :=
  match impl with
  | none => .error (.runtimeError "Missing agent implementation.")
  | some impl => .ok impl

namespace PrivilegeEscalationPreventionAgent

/-- `PrivilegeEscalationPreventionAgent::authenticate_request_with_parameters`, given the
user id that its functor returns;
`src/core/trust/privilege_escalation_prevention_agent.cpp:48–52`. -/
def authenticateRequestWithParameters (uid : Uid) (impl : Agent σ) : Agent σ := fun parameters =>
  if uid ≠ parameters.application.uid then throw .privilegeEscalation
  else impl parameters

/-- `PrivilegeEscalationPreventionAgent::PrivilegeEscalationPreventionAgent`;
`src/core/trust/privilege_escalation_prevention_agent.cpp:36–46`. -/
def create (uid : Uid) (impl : Option (Agent σ)) : Except Exception (Agent σ) :=
  (requireImpl impl).map (authenticateRequestWithParameters uid)

end PrivilegeEscalationPreventionAgent

namespace WhiteListingAgent

/-- `WhiteListingAgent::always_grant_for_unconfined`;
`src/core/trust/white_listing_agent.cpp:21–27`. -/
def alwaysGrantForUnconfined (params : RequestParameters) : Bool :=
  params.application.id = "unconfined"

/-- `WhiteListingAgent::authenticate_request_with_parameters`;
`src/core/trust/white_listing_agent.cpp:41–47`. -/
def authenticateRequestWithParameters (whiteListingPredicate : RequestParameters → Bool)
    (impl : Agent σ) : Agent σ := fun parameters =>
  if whiteListingPredicate parameters then return .granted
  else impl parameters

/-- `WhiteListingAgent::WhiteListingAgent`; `src/core/trust/white_listing_agent.cpp:29–39`. -/
def create (whiteListingPredicate : RequestParameters → Bool) (impl : Option (Agent σ)) :
    Except Exception (Agent σ) :=
  (requireImpl impl).map (authenticateRequestWithParameters whiteListingPredicate)

end WhiteListingAgent

namespace AppIdFormattingTrustAgent

/-- The regular expression `(.*)_(.*)_(.*)`;
`src/core/trust/app_id_formatting_trust_agent.cpp:39`. -/
def regex : List Regex.Item := [.group, .char '_', .group, .char '_', .group]

/-- The package and the name of an application id with a version, the id itself otherwise;
`src/core/trust/app_id_formatting_trust_agent.cpp:43–51`. -/
def format (id : String) : String :=
  match Regex.regexMatch regex id.toList with
  | some [package, app, _] => String.ofList package ++ "_" ++ String.ofList app
  | _ => id

/-- An application id with a version: at least two underscores and no line terminators, split at
the last underscore. -/
structure Versioned (id : String) (unversioned version : List Char) : Prop where
  split : id.toList = unversioned ++ '_' :: version
  plain : Regex.Plain id.toList
  qualified : '_' ∈ unversioned
  last : '_' ∉ version

private theorem regex_isFields : regex = Regex.fields '_' 2 := rfl

/-- A list is split at the last occurrence of an element. -/
theorem split_last {c : Char} {text : List Char} (h : c ∈ text) :
    ∃ before after, text = before ++ c :: after ∧ c ∉ after := by
  obtain ⟨as, bs, heq, hmem⟩ := List.eq_append_cons_of_mem (List.mem_reverse.mpr h)
  refine ⟨bs.reverse, as.reverse, ?_, by simpa using hmem⟩
  rw [← List.reverse_reverse text, heq]
  simp

/-- An application id with a version loses it. -/
theorem format_of_versioned {id : String} {unversioned version : List Char}
    (h : Versioned id unversioned version) : format id = String.ofList unversioned := by
  obtain ⟨package, app, rfl, happ⟩ := split_last h.qualified
  have hsplits : Regex.Splits '_' 2 id.toList [package, app, version] := by
    refine ⟨package, app ++ '_' :: version, app, [version], rfl, ?_, happ, ?_⟩
    · rw [h.split, List.append_assoc, List.cons_append]
    · exact ⟨app, version, version, [], rfl, rfl, h.last, rfl⟩
  have hmatch := (Regex.regexMatch_fields (by decide)).mpr ⟨h.plain, hsplits⟩
  rw [format, regex_isFields, hmatch]
  apply String.toList_inj.mp
  simp

/-- Any other application id stays as it is. -/
theorem format_of_not_versioned {id : String}
    (h : ∀ unversioned version, ¬ Versioned id unversioned version) : format id = id := by
  rw [format, regex_isFields]
  cases hmatch : Regex.regexMatch (Regex.fields '_' 2) id.toList with
  | none => rfl
  | some groups =>
    obtain ⟨hplain, package, tail, app, others, rfl, hid, happ, htail⟩ :=
      (Regex.regexMatch_fields (by decide)).mp hmatch
    obtain ⟨_, version, _, _, heq, rfl, hversion, hothers⟩ := htail
    cases heq
    cases hothers
    refine absurd ⟨?_, hplain, ?_, hversion⟩ (h (package ++ '_' :: app) version)
    · rw [hid, List.append_assoc, List.cons_append]
    · simp

/-- `AppIdFormattingTrustAgent::authenticate_request_with_parameters`;
`src/core/trust/app_id_formatting_trust_agent.cpp:33–54`. -/
def authenticateRequestWithParameters (impl : Agent σ) : Agent σ := fun incomingParams =>
  impl { incomingParams with
    application := { incomingParams.application with id := format incomingParams.application.id } }

/-- `AppIdFormattingTrustAgent::AppIdFormattingTrustAgent`;
`src/core/trust/app_id_formatting_trust_agent.cpp:23–30`. -/
def create (impl : Option (Agent σ)) : Except Exception (Agent σ) :=
  (requireImpl impl).map authenticateRequestWithParameters

end AppIdFormattingTrustAgent
end TrustStore
