import SocketAttribution.Hook.Point
import SocketAttribution.Hook.Program
import SocketAttribution.Platform.Version

/-!
# Hook plans

Which programs a kernel version lets the agent rely on, as a list of steps.

## Main definitions

* `PlanStep`: one thing to be done.
* `HookGroup`, `hookGroups`: hooks that are enabled together from a kernel version on.
* `attachPlan`: the steps for a kernel version.

## Design notes

A group that verifies asks the kernel for every hook attached since the last verification, its own
and earlier ones. Kernels answer such questions from 4.19 on, so that group is the first to verify
and also speaks for the two before it.
-/

namespace SocketAttribution

/-- One step of a plan. -/
inductive PlanStep where
  /-- The program can be opened. -/
  | checkAccessible (program : Program)
  /-- The program is attached at the hook. -/
  | attach (program : Program) (hook : HookPoint)
  /-- The kernel knows of a program at the hook. -/
  | verify (hook : HookPoint)
  deriving DecidableEq, Repr

/-- The hook that a step attaches, if it attaches one. -/
def PlanStep.attachedHook? : PlanStep → Option HookPoint
  | .attach _ hook => some hook
  | _ => none

/-- Hooks that are enabled together. -/
structure HookGroup where
  /-- The least kernel version, if the group asks for one. -/
  minimum : Option Version
  hooks : List (Program × HookPoint)
  /-- Whether everything attached so far is verified behind the group. -/
  verifies : Bool

/-- Whether a kernel version enables the group. -/
def HookGroup.Enabled (version : Version) (group : HookGroup) : Prop :=
  ∀ minimum ∈ group.minimum, minimum ≤ version

instance (version : Version) (group : HookGroup) : Decidable (group.Enabled version) :=
  match h : group.minimum with
  | none => .isTrue (by simp [HookGroup.Enabled, h])
  | some minimum =>
    decidable_of_iff (minimum ≤ version) (by simp [HookGroup.Enabled, h])

/-- The programs that filter sockets. They are attached by the loader; the agent makes sure of
them. -/
def socketFilters : List Program :=
  [.allowlistFilter, .denylistFilter, .egressFilter, .ingressFilter]

/-- The groups of hooks in the order in which they are attached. -/
def hookGroups : List HookGroup :=
  [⟨none, [(.egressStats, .inetEgress), (.ingressStats, .inetIngress)], false⟩,
    ⟨some ⟨4, 14, 0⟩, [(.sockCreate, .inetSockCreate)], false⟩,
    ⟨some ⟨4, 19, 0⟩, [(.blockBind4, .inet4Bind), (.blockBind6, .inet6Bind)], true⟩,
    ⟨some ⟨5, 8, 0⟩, [(.setSockOpt, .setSockOpt)], true⟩]

/-- The steps that attach the hooks of a group. -/
def HookGroup.attachSteps (group : HookGroup) : List PlanStep :=
  group.hooks.map fun entry => .attach entry.1 entry.2

/-- The steps of groups that are enabled, where `pending` hooks were attached before them and have
not been verified. -/
def groupSteps (pending : List HookPoint) : List HookGroup → List PlanStep
  | [] => []
  | group :: rest =>
    let pending' := pending ++ group.hooks.map (·.2)
    if group.verifies then
      group.attachSteps ++ pending'.map .verify ++ groupSteps [] rest
    else group.attachSteps ++ groupSteps pending' rest

/-- The steps for a kernel version: the socket filters are checked, then the enabled groups are
attached one after another. -/
def attachPlan (version : Version) : List PlanStep :=
  socketFilters.map .checkAccessible ++
    groupSteps [] (hookGroups.filter fun group => group.Enabled version)

/-- The hooks that a plan attaches, in its order. -/
def attachedHooks (plan : List PlanStep) : List HookPoint := plan.filterMap PlanStep.attachedHook?

@[simp] theorem attachedHooks_nil : attachedHooks [] = [] := rfl

@[simp] theorem attachedHooks_append (p q : List PlanStep) :
    attachedHooks (p ++ q) = attachedHooks p ++ attachedHooks q := by
  simp [attachedHooks]

end SocketAttribution
