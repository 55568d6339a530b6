import SocketAttribution.Hook.Point
import SocketAttribution.Path.Basic
import SocketAttribution.SystemError

/-!
# Failures of a plan

## Main definitions

* `HookError`: why a step of a plan failed.
* `HookError.IsInconsistent`: the failure after which the state of the cgroup cannot be trusted.
-/

namespace SocketAttribution

/-- Why a step of a plan failed. -/
inductive HookError where
  /-- The pinned program could not be opened. -/
  | unavailable (path : Path) (source : SystemError)
  /-- The kernel refused to attach the program. -/
  | rejected (path : Path) (hook : HookPoint) (source : SystemError)
  /-- A program was attached and the kernel does not know of it. -/
  | unverified (hook : HookPoint)
  deriving DecidableEq, Repr

namespace HookError

/-- The wording of the error. -/
def message : HookError → String
  | .unavailable path source => s!"failed to get program from {path.text}: {source.message}"
  | .rejected path hook source =>
    s!"program {path.text} attach to {hook.label} failed: {source.message}"
  | .unverified hook => s!"{hook.label} reported attached but query found no program"

/-- The wording of the error and of what lies behind it. -/
def chain (e : HookError) : List String :=
  match e with
  | .unavailable _ source => [e.message, source.message]
  | .rejected _ _ source => [e.message, source.message]
  | .unverified _ => [e.message]

/-- Whether the kernel contradicts itself. -/
def isInconsistent : HookError → Bool
  | .unverified _ => true
  | _ => false

@[simp] theorem isInconsistent_eq_true_iff {e : HookError} :
    e.isInconsistent = true ↔ ∃ hook, e = .unverified hook := by
  cases e <;> simp [isInconsistent]

end HookError

end SocketAttribution
