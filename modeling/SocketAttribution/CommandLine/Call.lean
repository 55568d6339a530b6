import SocketAttribution.Platform.Running
import SocketAttribution.Startup.Sequence

/-!
# Calls of a command

The vocabulary of commands: everything that startup and the tagger ask for, and questions put to
the running system. A command fails with a headline and what lies behind it, or because the kernel
contradicts itself and the process must stop at once.

## Main definitions

* `Failure`: why a command failed.
* `AgentCall`, `AgentCall.Answer`: the calls.
* `AgentAttempt`: the work of a command.
* `startupWork`, `taggerWork`, `systemWork`: narrower work as part of a command.
-/

namespace SocketAttribution.CommandLine

/-! ## Failures -/

/-- Why a command failed. -/
inductive Failure where
  /-- A headline and what lies behind it, outermost first. -/
  | reported (headline : String) (causes : List String)
  /-- The process must stop at once. -/
  | aborting (message : String)
  deriving DecidableEq, Repr

namespace Failure

/-- A failure that is nothing but its headline. -/
def bare (headline : String) : Failure := .reported headline []

/-- The failure whose wordings are given outermost first. -/
def ofChain : List String → Failure
  | [] => .bare ""
  | headline :: causes => .reported headline causes

/-- Causes with their places in front. -/
def numbered : Nat → List String → List String
  | _, [] => []
  | place, cause :: rest => s!"    {place}: {cause}" :: numbered (place + 1) rest

/-- The lines of the causes: one alone stands by itself, several are numbered. -/
def causeLines : List String → List String
  | [] => []
  | [cause] => ["", "Caused by:", "    " ++ cause]
  | causes => ["", "Caused by:"] ++ numbered 0 causes

/-- The text of a failure in the log. -/
def text (headline : String) (causes : List String) : String :=
  "\n".intercalate (headline :: causeLines causes)

end Failure

/-! ## Calls -/

/-- A call of a command. -/
inductive AgentCall (Prog Dir Handle : Type) where
  | startup (call : StartupCall Prog Dir Handle)
  /-- A call of a tagger over open tables. -/
  | tagger (tables : Tables Handle) (call : TagCall)
  | system (call : SystemCall)
  deriving DecidableEq, Repr

/-- The answers to calls of a command. -/
abbrev AgentCall.Answer {Prog Dir Handle : Type} : AgentCall Prog Dir Handle → Type
  | .startup call => call.Answer
  | .tagger _ call => call.Answer
  | .system call => call.Answer

/-- The work of a command. -/
abbrev AgentAttempt (Prog Dir Handle α : Type) : Type :=
  Attempt (AgentCall Prog Dir Handle) AgentCall.Answer Failure α

variable {Prog Dir Handle α : Type}

/-- Work of startup as part of a command. -/
def startupWork (fail : InitError → Failure) (work : StartupAttempt Prog Dir Handle α) :
    AgentAttempt Prog Dir Handle α :=
  Attempt.mapError fail (Attempt.through AgentCall.startup (fun _ answer => answer) work)

/-- Work of a tagger as part of a command. -/
def taggerWork (tables : Tables Handle) (fail : TagError → Failure) (work : TagAttempt α) :
    AgentAttempt Prog Dir Handle α :=
  Attempt.mapError fail (Attempt.through (AgentCall.tagger tables) (fun _ answer => answer) work)

/-- Questions put to the running system as part of a command. -/
def systemWork {ε : Type} (fail : ε → Failure)
    (work : Attempt SystemCall SystemCall.Answer ε α) : AgentAttempt Prog Dir Handle α :=
  Attempt.mapError fail (Attempt.through AgentCall.system (fun _ answer => answer) work)

end SocketAttribution.CommandLine
