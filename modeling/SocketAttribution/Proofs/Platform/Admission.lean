import SocketAttribution.Platform.Verdict
import SocketAttribution.Proofs.Hook.Growth

/-!
# What admission promises

Two tables speak of versions: that of requirements, by tiers, and that of groups of hooks. They are
written down apart from each other, and a tier is of no use without the hooks that it stands for.
Whoever is admitted meets the requirements of his tier, and so has a version that enables the
groups in question.

## Main definitions

* `TierServed`: what a plan does for the tier of a platform.

## Main statements

* `evaluate_eq_supported_iff`: who is admitted, and with which plan.
* `attach_mem_attachPlan_of_le`: what is attached for a version is attached for all later ones.
* `tierServed_of_supported`: **the two tables agree**.
-/

namespace SocketAttribution

variable {facts : PlatformFacts} {plan : List PlanStep}

/-! ## Admission -/

/-- A platform is not refused if it meets all that is asked of its tier. -/
theorem admissionFailure_eq_none_iff :
    admissionFailure facts = none ↔
      ∀ r ∈ requirements, r.fromTier ≤ facts.tier → r.condition.Holds facts := by
  rw [admissionFailure, Option.map_eq_none_iff, List.find?_eq_none]
  constructor
  · intro met r listed asked
    by_contra fails
    exact met r listed (decide_eq_true ⟨asked, fails⟩)
  · intro holds r listed unmet
    obtain ⟨asked, fails⟩ := of_decide_eq_true unmet
    exact fails (holds r listed asked)

/-- **Who meets all that is asked of his tier is admitted**, with the plan of his version. -/
theorem evaluate_eq_supported_iff :
    evaluate facts = .supported plan ↔
      plan = attachPlan facts.kernel.version ∧
        ∀ r ∈ requirements, r.fromTier ≤ facts.tier → r.condition.Holds facts := by
  rw [evaluate, ← admissionFailure_eq_none_iff]
  cases admissionFailure facts with
  | none => simp [eq_comm]
  | some refusal => simp

/-- An admitted platform carries out the plan of its version. -/
theorem evaluate_supported (verdict : evaluate facts = .supported plan) :
    plan = attachPlan facts.kernel.version :=
  (evaluate_eq_supported_iff.1 verdict).1

/-- A version that tiers ask for is not above that of an admitted platform of these tiers. -/
theorem version_le_of_supported {tier : Tier} {least : Version} {refusal : Refusal}
    (verdict : evaluate facts = .supported plan) (asked : tier ≤ facts.tier)
    (listed : (⟨tier, .kernelAtLeast least, refusal⟩ : Requirement) ∈ requirements) :
    least ≤ facts.kernel.version :=
  (evaluate_eq_supported_iff.1 verdict).2 _ listed asked

/-! ## What a plan attaches -/

section Plans

variable {version : Version} {program : Program} {hook : HookPoint}

/-- What a plan attaches is an entry of a group that its version enables. -/
theorem enabled_of_attach_mem (mem : .attach program hook ∈ attachPlan version) :
    ∃ group ∈ hookGroups, group.Enabled version ∧ (program, hook) ∈ group.hooks := by
  obtain ⟨group, there, entry⟩ := entry_of_attach (mem_groupSteps_of_mem_attachPlan (by simp) mem)
  obtain ⟨listed, enabled⟩ := List.mem_filter.1 there
  exact ⟨group, listed, of_decide_eq_true enabled, entry⟩

/-- What a plan attaches for a version, it attaches for a later one. -/
theorem attach_mem_attachPlan_of_le {least : Version} (le : least ≤ version)
    (mem : .attach program hook ∈ attachPlan least) : .attach program hook ∈ attachPlan version :=
  (attachPlan_isPrefix le).subset mem

/-- From 4.19.0 on what a plan attaches, it verifies behind that. -/
theorem verified_of_attach_mem (recent : (⟨4, 19, 0⟩ : Version) ≤ version)
    (mem : .attach program hook ∈ attachPlan version) :
    ∃ front back, attachPlan version = front ++ .attach program hook :: back ∧
      .verify hook ∈ back := by
  obtain ⟨front, back, here⟩ := List.append_of_mem mem
  exact ⟨front, back, here, attachPlan_verify_of_attach recent here⟩

/-- The hook for socket options comes with 5.8.0, as its group asks. -/
theorem version_le_of_attach_setSockOpt
    (mem : .attach program .setSockOpt ∈ attachPlan version) :
    (⟨5, 8, 0⟩ : Version) ≤ version := by
  obtain ⟨group, listed, enabled, entry⟩ := enabled_of_attach_mem mem
  have table : ∀ group ∈ hookGroups, ∀ entry ∈ group.hooks, entry.2 = .setSockOpt →
      (⟨5, 8, 0⟩ : Version) ∈ group.minimum := by decide
  exact enabled _ (table group listed _ entry rfl)

/-- With 5.8.0 every hook is there. -/
theorem attach_mem_attachPlan_of_5_8 (newest : (⟨5, 8, 0⟩ : Version) ≤ version)
    (hook : HookPoint) : .attach hook.program hook ∈ attachPlan version := by
  have all : ∀ hook ∈ HookPoint.all, .attach hook.program hook ∈ attachPlan ⟨5, 8, 0⟩ := by
    decide
  exact attach_mem_attachPlan_of_le newest (all hook (HookPoint.mem_all hook))

end Plans

/-! ## Tiers and hooks -/

/-- What a plan does for the tier of a platform. -/
structure TierServed (facts : PlatformFacts) (plan : List PlanStep) : Prop where
  /-- From tier U on the creation of sockets is hooked. -/
  sock_create : Tier.u ≤ facts.tier → .attach .sockCreate .inetSockCreate ∈ plan
  /-- At tier V so are outgoing and incoming traffic and both kinds of binding. -/
  hooked : facts.tier = .v → ∀ entry ∈
    [(Program.egressStats, HookPoint.inetEgress), (.ingressStats, .inetIngress),
      (.sockCreate, .inetSockCreate), (.blockBind4, .inet4Bind), (.blockBind6, .inet6Bind)],
    .attach entry.1 entry.2 ∈ plan
  /-- At tier V every enabled hook is verified behind its attachment. -/
  verified : facts.tier = .v → ∀ hook ∈ (evaluate facts).enabledHooks,
    ∃ front program back, plan = front ++ .attach program hook :: back ∧ .verify hook ∈ back
  /-- Only from 4.19.0 on anything is verified, at any tier. -/
  recent : ∀ hook, .verify hook ∈ plan → (⟨4, 19, 0⟩ : Version) ≤ facts.kernel.version
  /-- The hook for socket options is attached or verified only from 5.8.0 on, together with all the
  other hooks, and with a verification of its own behind it. -/
  socket_options :
    (∃ program, .attach program .setSockOpt ∈ plan) ∨ .verify .setSockOpt ∈ plan →
    (⟨5, 8, 0⟩ : Version) ≤ facts.kernel.version ∧
      (∀ hook ∈ HookPoint.all, hook ∈ (evaluate facts).enabledHooks) ∧
      ∃ front back, plan = front ++ .attach .setSockOpt .setSockOpt :: back ∧
        .verify .setSockOpt ∈ back

/-- The hooks of an admitted platform are those that its plan attaches. -/
theorem mem_enabledHooks_iff {hook : HookPoint} (verdict : evaluate facts = .supported plan) :
    hook ∈ (evaluate facts).enabledHooks ↔ ∃ program, .attach program hook ∈ plan := by
  rw [verdict]
  exact mem_attachedHooks_iff

/-- A hook for socket options has 5.8.0 behind it, however it occurs. -/
theorem version_le_of_setSockOpt {version : Version}
    (occurs : (∃ program, .attach program .setSockOpt ∈ attachPlan version) ∨
      .verify .setSockOpt ∈ attachPlan version) : (⟨5, 8, 0⟩ : Version) ≤ version := by
  rcases occurs with ⟨program, mem⟩ | mem
  · exact version_le_of_attach_setSockOpt mem
  · -- What is verified was attached before.
    obtain ⟨front, back, here⟩ := List.append_of_mem mem
    obtain ⟨program, before⟩ := attachPlan_attached_of_verify here
    apply version_le_of_attach_setSockOpt
    rw [here]
    exact List.mem_append_left _ before

/-- **The two tables agree**: whoever is admitted has the hooks that his tier stands for. -/
theorem tierServed_of_supported (verdict : evaluate facts = .supported plan) :
    TierServed facts plan := by
  have agreed : evaluate facts = .supported plan := verdict
  obtain rfl : plan = attachPlan facts.kernel.version := evaluate_supported verdict
  -- The versions that the requirements of the two tiers ask for.
  have asked_u :
      (⟨.u, .kernelAtLeast ⟨4, 14, 0⟩, .kernelBelow4_14⟩ : Requirement) ∈ requirements := by
    simp [requirements]
  have asked_v :
      (⟨.v, .kernelAtLeast ⟨4, 19, 0⟩, .kernelBelow4_19⟩ : Requirement) ∈ requirements := by
    simp [requirements]
  have least_u (tier : Tier.u ≤ facts.tier) : (⟨4, 14, 0⟩ : Version) ≤ facts.kernel.version :=
    version_le_of_supported agreed tier asked_u
  have least_v (tier : facts.tier = .v) : (⟨4, 19, 0⟩ : Version) ≤ facts.kernel.version :=
    version_le_of_supported agreed (by rw [tier]; exact Nat.le_refl _) asked_v
  refine ⟨?sock_create, ?hooked, ?verified, ?recent, ?socket_options⟩
  case sock_create =>
    intro tier
    exact attach_mem_attachPlan_of_le (least_u tier) (by decide)
  case hooked =>
    intro tier entry mem
    have table : ∀ entry ∈ [(Program.egressStats, HookPoint.inetEgress),
        (.ingressStats, .inetIngress), (.sockCreate, .inetSockCreate), (.blockBind4, .inet4Bind),
        (.blockBind6, .inet6Bind)], .attach entry.1 entry.2 ∈ attachPlan ⟨4, 19, 0⟩ := by decide
    exact attach_mem_attachPlan_of_le (least_v tier) (table entry mem)
  case verified =>
    intro tier hook enabled
    obtain ⟨program, mem⟩ := (mem_enabledHooks_iff agreed).1 enabled
    obtain ⟨front, back, here, behind⟩ := verified_of_attach_mem (least_v tier) mem
    exact ⟨front, program, back, here, behind⟩
  case recent =>
    intro hook mem
    exact attachPlan_recent_of_verify mem
  case socket_options =>
    intro occurs
    have newest : (⟨5, 8, 0⟩ : Version) ≤ facts.kernel.version := version_le_of_setSockOpt occurs
    have all (hook : HookPoint) := attach_mem_attachPlan_of_5_8 newest hook
    have recent : (⟨4, 19, 0⟩ : Version) ≤ facts.kernel.version :=
      Version.le_trans (by decide) newest
    refine ⟨newest, ?_, verified_of_attach_mem recent (all .setSockOpt)⟩
    intro hook _
    exact (mem_enabledHooks_iff agreed).2 ⟨hook.program, all hook⟩

/-- A platform of tier V with the newest hook. -/
theorem tierServed_newest :
    let facts : PlatformFacts := ⟨.v, ⟨⟨5, 10, 3⟩, false, false⟩, some (.ofString "/sys/fs/cgroup")⟩
    evaluate facts = .supported (attachPlan ⟨5, 10, 3⟩) ∧
      TierServed facts (attachPlan ⟨5, 10, 3⟩) ∧
      (attachPlan ⟨5, 10, 3⟩).getLast? = some (.verify .setSockOpt) := by
  intro facts
  have verdict : evaluate facts = .supported (attachPlan ⟨5, 10, 3⟩) := by decide
  exact ⟨verdict, tierServed_of_supported verdict, by decide⟩

end SocketAttribution
