import TrustStore.Core.Agent

/-!
# Helper processes that prompt the user

What the agents make of the way a helper process ends: `wait_for` of process-cpp reports
it, and both `mir::Agent` and `TerminalAgent` translate it to an answer. The exit status is
the raw status of the process, cast to `exit::Status`, which has names for 0 and 1 only.
-/

namespace TrustStore

open TrustStore.Base

/-- The results of waiting with `wait::Flags::untraced`. -/
inductive WaitResult where
  | exited (status : UInt8)
  | signaled
  | stopped
  deriving DecidableEq, Repr

namespace ExitStatus

/-- `exit::Status::success`, which is `EXIT_SUCCESS`. -/
def success : UInt8 := 0

/-- `exit::Status::failure`, which is `EXIT_FAILURE`. -/
def failure : UInt8 := 1

end ExitStatus

/-- The analysis of the end of a helper that both agents make, each with its own message:
anything but a normal exit throws, the status `failure` denies, any other one grants. -/
def translateExit (inconclusive : String) : WaitResult → Except Exception Answer
  | .exited status => if ExitStatus.failure = status then .ok .denied else .ok .granted
  | .signaled | .stopped => .error (.logicError inconclusive)

/-- The analysis grants for every exit status but one. -/
theorem translateExit_granted_iff {inconclusive : String} {result : WaitResult} :
    translateExit inconclusive result = .ok .granted ↔
      ∃ status, result = .exited status ∧ status ≠ ExitStatus.failure := by
  cases result with
  | exited status =>
    by_cases h : ExitStatus.failure = status
    · simp [translateExit, h]
    · simp [translateExit, h, Ne.symm h]
  | signaled => simp [translateExit]
  | stopped => simp [translateExit]

/-- `mir::Agent::translator_only_accepting_exit_status_success`;
`src/core/trust/mir/agent.cpp:194–211`. -/
def Mir.translatorOnlyAcceptingExitStatusSuccess : WaitResult → Except Exception Answer :=
  translateExit ("The prompt provider process was signaled or stopped, " ++
    "unable to determine a conclusive answer from the user")

/-- Starting a child process and waiting for it. -/
structure Posix (σ : Type) where
  /-- `core::posix::exec` with the environment of this process. -/
  exec : String → List String → Action σ PUnit
  /-- `ChildProcess::wait_for` with `wait::Flags::untraced`. -/
  waitFor : Action σ WaitResult

namespace TerminalAgent

/-- `TerminalAgent::default_width`; `src/core/trust/terminal_agent.h:36–37`. -/
def defaultWidth : Nat := 70

/-- `TerminalAgent::default_height`; `src/core/trust/terminal_agent.h:38–39`. -/
def defaultHeight : Nat := 10

/-- `TerminalAgent::whiptail`; `src/core/trust/terminal_agent.h:41–44`. -/
def whiptail : String := "/bin/whiptail"

/-- The command line of the dialog; `src/core/trust/terminal_agent.h:62–69`. -/
def args (serviceName : String) (parameters : RequestParameters) : List String :=
  ["--title",
    "\"Please audit access to: " ++ serviceName ++ " by " ++ parameters.application.id ++ "\"",
    "--yes-button", "Grant",
    "--no-button", "Deny",
    "--yesno",
    "\"" ++ parameters.description ++ "\"", toString defaultHeight, toString defaultWidth]

/-- The answer that the end of the dialog stands for; `src/core/trust/terminal_agent.h:81–91`. -/
def translate : WaitResult → Except Exception Answer :=
  translateExit "Unable to determine a conclusive answer from the user"

/-- `TerminalAgent::authenticate_request_with_parameters`;
`src/core/trust/terminal_agent.h:53–92`. -/
def authenticateRequestWithParameters {σ : Type} (posix : Posix σ) (serviceName : String) :
    Agent σ := fun parameters => do
  posix.exec whiptail (args serviceName parameters)
  match translate (← posix.waitFor) with
  | .ok answer => return answer
  | .error e => throw e

end TerminalAgent
end TrustStore
