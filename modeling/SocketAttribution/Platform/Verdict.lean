import SocketAttribution.Hook.Plan
import SocketAttribution.Platform.Admission

/-!
# Verdicts

What is to be done on a platform: a plan, if the platform is admitted, or nothing and a reason.
-/

namespace SocketAttribution

/-- The outcome of looking at a platform. -/
inductive Verdict where
  | supported (plan : List PlanStep)
  | unsupported (refusal : Refusal)
  deriving DecidableEq, Repr

namespace Verdict

/-- The plan of an admitted platform. -/
def plan? : Verdict → Option (List PlanStep)
  | .supported plan => some plan
  | .unsupported _ => none

/-- The hooks that are attached, in the order of the plan. -/
def enabledHooks (verdict : Verdict) : List HookPoint := attachedHooks (verdict.plan?.getD [])

@[simp] theorem plan?_supported (plan : List PlanStep) : (supported plan).plan? = some plan := rfl

@[simp] theorem plan?_unsupported (refusal : Refusal) : (unsupported refusal).plan? = none := rfl

end Verdict

/-- The verdict on a platform. -/
def evaluate (facts : PlatformFacts) : Verdict :=
  match admissionFailure facts with
  | some refusal => .unsupported refusal
  | none => .supported (attachPlan facts.kernel.version)

end SocketAttribution
