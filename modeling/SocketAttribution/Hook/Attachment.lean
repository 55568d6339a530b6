import SocketAttribution.Dialogue
import SocketAttribution.Hook.Error
import SocketAttribution.Hook.Plan

/-!
# Carrying out a plan

Wiring pinned programs into a cgroup through a program host.

## Main definitions

* `HostCall`: what a program host is asked.
* `ensureAccessible`, `attachProgram`, `ensureAttached`: the three kinds of step.
* `executePlan`: the steps of a plan, up to the first that fails.

## Design notes

Programs and directories are whatever a host hands out: the steps pass them on and look into
neither.
-/

namespace SocketAttribution

/-- What a program host is asked. -/
inductive HostCall (Prog Dir : Type) where
  /-- Opens a pinned program. -/
  | retrieve (path : Path)
  /-- Attaches an opened program. -/
  | attach (hook : HookPoint) (program : Prog) (directory : Dir)
  /-- Counts the programs at a hook. -/
  | query (hook : HookPoint) (directory : Dir)
  deriving DecidableEq, Repr

/-- What a program host answers. -/
abbrev HostCall.Answer {Prog Dir : Type} : HostCall Prog Dir → Type
  | .retrieve _ => Except SystemError Prog
  | .attach _ _ _ => Except SystemError Unit
  | .query _ _ => Except SystemError UInt32

/-- Work with a program host that may fail. -/
abbrev HostAttempt (Prog Dir α : Type) : Type :=
  Attempt (HostCall Prog Dir) HostCall.Answer HookError α

variable {Prog Dir : Type}

/-- Opens a pinned program. -/
def openProgram (path : Path) : HostAttempt Prog Dir Prog :=
  Attempt.demand (.retrieve path) fun answer => answer.mapError (.unavailable path)

/-- Makes sure that a pinned program can be opened. -/
def ensureAccessible (path : Path) : HostAttempt Prog Dir Unit := do
  let _ ← openProgram path

/-- Opens a pinned program and attaches it. -/
def attachProgram (path : Path) (hook : HookPoint) (directory : Dir) :
    HostAttempt Prog Dir Unit := do
  let program ← openProgram path
  Attempt.demand (.attach hook program directory) fun answer =>
    answer.mapError (.rejected path hook)
  Attempt.note .hooks .debug s!"attached {path.text} to {hook.label}"

/-- A count of programs at a hook, if it is one of at least one. -/
def confirmedCount (hook : HookPoint) : Except SystemError UInt32 → Except HookError UInt32
  | .ok count => if 0 < count then .ok count else .error (.unverified hook)
  | .error _ => .error (.unverified hook)

/-- Makes sure that the kernel knows of at least one program at a hook, and says of how many. An
unanswered question counts as none: the attachment has only just succeeded. -/
def ensureAttached (hook : HookPoint) (directory : Dir) : HostAttempt Prog Dir UInt32 :=
  Attempt.demand (.query hook directory) (confirmedCount hook)

/-- Carries out one step. -/
def PlanStep.execute (layout : Layout) (directory : Dir) : PlanStep → HostAttempt Prog Dir Unit
  | .checkAccessible program => ensureAccessible (layout.programPath program)
  | .attach program hook => attachProgram (layout.programPath program) hook directory
  | .verify hook => do
    let count ← ensureAttached hook directory
    Attempt.note .hooks .debug s!"{hook.label} has {count} program(s) attached"

/-- Carries out steps in order, up to the first that fails. -/
def executeSteps (layout : Layout) (directory : Dir) : List PlanStep → HostAttempt Prog Dir Unit
  | [] => pure ()
  | step :: rest => do
    step.execute layout directory
    executeSteps layout directory rest

/-- Carries out a plan and says so when it is complete. -/
def executePlan (layout : Layout) (directory : Dir) (plan : List PlanStep) :
    HostAttempt Prog Dir Unit := do
  executeSteps layout directory plan
  Attempt.note .hooks .info s!"attach plan complete ({plan.length} steps)"

@[simp] theorem executeSteps_nil (layout : Layout) (directory : Dir) :
    (executeSteps layout directory [] : HostAttempt Prog Dir Unit) = pure () := rfl

end SocketAttribution
