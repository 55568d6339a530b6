import Mathlib.Data.List.Nodup
import SocketAttribution.Platform.Verdict
import SocketAttribution.Proofs.Hook.Plan

/-!
# How plans grow

The groups of hooks are listed by rising versions, so a version enables the groups up to some place
in the list, and a later version those and perhaps more behind them. The steps of more groups are
the steps of the fewer, and then others: what is pending behind the fewer groups is handed on, and
nothing that was planned before is changed.

What a plan verifies and what it leaves pending is, in this order, what it attaches. This balance
is kept by every group, whether it verifies or hands on, and settles how often a hook is verified.

## Main definitions

* `verifiedHooks`: the hooks that a plan verifies.
* `pendingBehind`: the hooks that groups leave pending.
* `WellFormedPlan`: what holds of the plan of every version.

## Main statements

* `groupSteps_append`: the steps of groups, and of others behind them.
* `verifiedHooks_append_pendingBehind`: the balance of attachments and verifications.
* `enabledGroups_isPrefix`: a later version enables the same groups and then others.
* `attachPlan_wellFormed_and_grows`: **the plans of all versions**.
-/

namespace SocketAttribution

/-- The hook that a step verifies, if it verifies one. -/
def PlanStep.verifiedHook? : PlanStep → Option HookPoint
  | .verify hook => some hook
  | _ => none

/-- The hooks that a plan verifies, in its order. -/
def verifiedHooks (plan : List PlanStep) : List HookPoint := plan.filterMap PlanStep.verifiedHook?

/-- The hooks that groups leave pending, where `pending` hooks are pending in front of them. -/
def pendingBehind : List HookPoint → List HookGroup → List HookPoint
  | pending, [] => pending
  | pending, group :: rest =>
    if group.verifies then pendingBehind [] rest
    else pendingBehind (pending ++ group.hooks.map (·.2)) rest

/-! ## The hooks that are verified -/

@[simp] theorem verifiedHooks_append (p q : List PlanStep) :
    verifiedHooks (p ++ q) = verifiedHooks p ++ verifiedHooks q := List.filterMap_append

@[simp] theorem verifiedHooks_verify (hooks : List HookPoint) :
    verifiedHooks (hooks.map .verify) = hooks := by
  rw [verifiedHooks, List.filterMap_map]
  exact List.filterMap_some

theorem HookGroup.verifiedHooks_attachSteps (group : HookGroup) :
    verifiedHooks group.attachSteps = [] := by
  rw [verifiedHooks, attachSteps, List.filterMap_map]
  exact List.filterMap_eq_nil_iff.2 fun entry _ => rfl

/-- What a plan verifies is among its verified hooks. -/
theorem mem_verifiedHooks_iff {plan : List PlanStep} {hook : HookPoint} :
    hook ∈ verifiedHooks plan ↔ .verify hook ∈ plan := by
  rw [verifiedHooks, List.mem_filterMap]
  constructor
  · rintro ⟨step, mem, verifies⟩
    cases step with
    | verify other =>
        cases verifies
        exact mem
    | checkAccessible program => cases verifies
    | attach program other => cases verifies
  · intro mem
    exact ⟨_, mem, rfl⟩

/-- A hook is verified as often as it stands among the verified hooks. -/
theorem count_verifiedHooks (plan : List PlanStep) (hook : HookPoint) :
    (verifiedHooks plan).count hook = plan.count (.verify hook) := by
  rw [List.count, List.count, verifiedHooks, List.countP_filterMap]
  apply List.countP_congr
  intro step _
  cases step <;> simp [PlanStep.verifiedHook?]

/-! ## Groups behind groups -/

section Groups

variable {groups front back : List HookGroup}

/-- The steps of a group, where the groups behind it find pending what it leaves. -/
theorem HookGroup.Settles.pendingBehind_cons {group : HookGroup} {pending pending' : List HookPoint}
    {verified : List HookPoint} (settles : group.Settles pending verified pending')
    (rest : List HookGroup) :
    pendingBehind pending (group :: rest) = pendingBehind pending' rest := by
  cases settles with
  | verifying verifies => rw [pendingBehind, if_pos verifies]
  | handingOn silent => rw [pendingBehind, if_neg (by simp [silent])]

/-- A group verifies and hands on what it found pending and its own hooks. -/
theorem HookGroup.Settles.balance {group : HookGroup} {pending pending' verified : List HookPoint}
    (settles : group.Settles pending verified pending') :
    verified ++ pending' = pending ++ group.hooks.map (·.2) := by
  cases settles with
  | verifying verifies => exact List.append_nil _
  | handingOn silent => exact List.nil_append _

/-- **The steps of groups, and of others behind them**: the others find pending what the first
leave, and change nothing of what these do. -/
theorem groupSteps_append (pending : List HookPoint) (front back : List HookGroup) :
    groupSteps pending (front ++ back) =
      groupSteps pending front ++ groupSteps (pendingBehind pending front) back := by
  induction front generalizing pending with
  | nil => rfl
  | cons group rest ih =>
      cases verifies : group.verifies with
      | true => simp [groupSteps, pendingBehind, verifies, ih]
      | false => simp [groupSteps, pendingBehind, verifies, ih]

/-- **Balance**: what is verified and what is left pending is what was pending and what is attached,
in the same order. -/
theorem verifiedHooks_append_pendingBehind (pending : List HookPoint) (groups : List HookGroup) :
    verifiedHooks (groupSteps pending groups) ++ pendingBehind pending groups =
      pending ++ attachedHooks (groupSteps pending groups) := by
  induction groups generalizing pending with
  | nil => exact (List.append_nil pending).symm
  | cons group rest ih =>
      obtain ⟨verified, pending', settles, steps⟩ := groupSteps_cons pending group rest
      calc verifiedHooks (groupSteps pending (group :: rest)) ++
            pendingBehind pending (group :: rest)
          = verified ++
              (verifiedHooks (groupSteps pending' rest) ++ pendingBehind pending' rest) := by
            rw [steps, settles.pendingBehind_cons, verifiedHooks_append, verifiedHooks_append,
              group.verifiedHooks_attachSteps, verifiedHooks_verify, List.nil_append,
              List.append_assoc]
        _ = pending ++ group.hooks.map (·.2) ++ attachedHooks (groupSteps pending' rest) := by
            rw [ih, ← List.append_assoc, settles.balance]
        _ = pending ++ attachedHooks (groupSteps pending (group :: rest)) := by
            rw [steps, attachedHooks_append, attachedHooks_append, attachedHooks_verify,
              group.attachedHooks_attachSteps, List.nil_append, List.append_assoc]

/-- Behind a group that verifies nothing is pending. -/
theorem pendingBehind_concat_of_verifies {group : HookGroup} (verifies : group.verifies = true)
    (pending : List HookPoint) (front : List HookGroup) :
    pendingBehind pending (front ++ [group]) = [] := by
  induction front generalizing pending with
  | nil => exact if_pos verifies
  | cons first rest ih =>
      rw [List.cons_append, pendingBehind]
      split
      · exact ih _
      · exact ih _

end Groups

/-! ## Versions -/

/-- Whoever passes the test of a list that is sorted by how hard the test is stands in front of all
who do not, so an easier test lets the same pass and then others. -/
theorem filter_isPrefix_filter {α : Type} {p q : α → Bool} {l : List α}
    (sorted : l.Pairwise fun a b => p b = true → p a = true)
    (easier : ∀ a, p a = true → q a = true) : l.filter p <+: l.filter q := by
  induction l with
  | nil => exact List.prefix_refl _
  | cons a rest ih =>
      obtain ⟨first, behind⟩ := List.pairwise_cons.1 sorted
      by_cases passes : p a = true
      · rw [List.filter_cons_of_pos passes, List.filter_cons_of_pos (easier a passes)]
        exact (List.prefix_cons_inj a).2 (ih behind)
      · have nobody : (a :: rest).filter p = [] := by
          rw [List.filter_eq_nil_iff]
          intro b mem
          rcases List.mem_cons.1 mem with rfl | mem
          · exact passes
          · exact fun passed => passes (first b mem passed)
        rw [nobody]
        exact List.nil_prefix

section Versions

variable {version later : Version} {front back : List PlanStep} {program : Program}
  {hook : HookPoint}

/-- A later version enables what a version enables. -/
theorem HookGroup.Enabled.mono {group : HookGroup} (enabled : group.Enabled version)
    (le : version ≤ later) : group.Enabled later :=
  fun minimum asked => Version.le_trans (enabled minimum asked) le

/-- The groups are listed by rising versions. -/
theorem hookGroups_sorted (version : Version) :
    hookGroups.Pairwise fun a b => b.Enabled version → a.Enabled version := by
  have rising : hookGroups.Pairwise fun a b =>
      ∀ least ∈ a.minimum, ∃ next ∈ b.minimum, least ≤ next := by decide
  refine rising.imp ?_
  intro a b rises enabled least asked
  obtain ⟨next, there, le⟩ := rises least asked
  exact Version.le_trans le (enabled next there)

/-- **A later version enables the same groups and then others.** -/
theorem enabledGroups_isPrefix (le : version ≤ later) :
    enabledGroups version <+: enabledGroups later := by
  apply filter_isPrefix_filter
  · simpa using hookGroups_sorted version
  · intro group enabled
    exact decide_eq_true ((of_decide_eq_true enabled).mono le)

/-- **A later version extends the plan.** -/
theorem attachPlan_isPrefix (le : version ≤ later) : attachPlan version <+: attachPlan later := by
  obtain ⟨more, same⟩ := enabledGroups_isPrefix le
  refine ⟨groupSteps (pendingBehind [] (enabledGroups version)) more, ?_⟩
  rw [attachPlan_eq, attachPlan_eq, ← same, groupSteps_append, List.append_assoc]

/-- A later version attaches the same hooks and then others. -/
theorem attachedHooks_attachPlan_isPrefix (le : version ≤ later) :
    attachedHooks (attachPlan version) <+: attachedHooks (attachPlan later) :=
  (attachPlan_isPrefix le).filterMap PlanStep.attachedHook?

/-- The steps of groups check nothing. -/
theorem checkAccessible_not_mem_groupSteps (program : Program) (pending : List HookPoint)
    (groups : List HookGroup) : .checkAccessible program ∉ groupSteps pending groups := by
  induction groups generalizing pending with
  | nil => exact List.not_mem_nil
  | cons group rest ih =>
      obtain ⟨verified, pending', -, steps⟩ := groupSteps_cons pending group rest
      rw [steps, List.mem_append, List.mem_append]
      rintro (mem | mem | mem)
      · obtain ⟨entry, -, same⟩ := List.mem_map.1 mem
        cases same
      · obtain ⟨other, -, same⟩ := List.mem_map.1 mem
        cases same
      · exact ih pending' mem

/-- What is verified is, in this order, a first part of what is attached. -/
theorem verifiedHooks_attachPlan_isPrefix (version : Version) :
    verifiedHooks (attachPlan version) <+: attachedHooks (attachPlan version) := by
  have balance := verifiedHooks_append_pendingBehind [] (enabledGroups version)
  exact ⟨_, balance⟩

/-- **From 4.19.0 on the hooks that are verified are those that are attached.** -/
theorem verifiedHooks_attachPlan_of_recent (recent : (⟨4, 19, 0⟩ : Version) ≤ version) :
    verifiedHooks (attachPlan version) = attachedHooks (attachPlan version) := by
  have balance : verifiedHooks (attachPlan version) ++ pendingBehind [] (enabledGroups version) =
      attachedHooks (attachPlan version) :=
    verifiedHooks_append_pendingBehind [] (enabledGroups version)
  rcases List.eq_nil_or_concat' (enabledGroups version) with none | ⟨init, last, ends⟩
  · rw [none] at balance
    rw [← balance]
    exact (List.append_nil _).symm
  · have verifies : last.verifies = true := last_enabled_verifies recent init last ends
    rw [ends, pendingBehind_concat_of_verifies verifies, List.append_nil] at balance
    exact balance

/-- No hook is verified twice. -/
theorem nodup_verifiedHooks_attachPlan (version : Version) :
    (verifiedHooks (attachPlan version)).Nodup :=
  (verifiedHooks_attachPlan_isPrefix version).sublist.nodup (nodup_attachedHooks_attachPlan version)

/-- The first groups that a version enables are those of all versions. -/
theorem attachedHooks_attachPlan_starts (version : Version) :
    [.inetEgress, .inetIngress] <+: attachedHooks (attachPlan version) := by
  have oldest : (⟨0, 0, 0⟩ : Version) ≤ version := by
    rw [Version.le_iff_not_lt, Version.lt_iff]
    simp only [UInt32.lt_iff_toNat_lt]
    rintro (h | ⟨-, h | ⟨-, h⟩⟩)
    · exact Nat.not_lt_zero _ h
    · exact Nat.not_lt_zero _ h
    · exact Nat.not_lt_zero _ h
  have first : attachedHooks (attachPlan ⟨0, 0, 0⟩) = [.inetEgress, .inetIngress] := by decide
  rw [← first]
  exact attachedHooks_attachPlan_isPrefix oldest

end Versions

/-! ## Well-formed plans -/

/-- What holds of the plan of a version. -/
structure WellFormedPlan (version : Version) (plan : List PlanStep) : Prop where
  /-- The plan starts with the checks of the four socket filters, and no check is behind them. -/
  checks : ∃ rest,
    plan = [.checkAccessible .allowlistFilter, .checkAccessible .denylistFilter,
      .checkAccessible .egressFilter, .checkAccessible .ingressFilter] ++ rest ∧
    ∀ program, .checkAccessible program ∉ rest
  /-- No hook is attached twice. -/
  attached_once : (attachedHooks plan).Nodup
  /-- Every hook gets its own program, and no other hook gets that one. -/
  own_program : ∀ program hook, .attach program hook ∈ plan →
    program = hook.program ∧ ∀ other, .attach program other ∈ plan → other = hook
  /-- The first hook that is attached is that of outgoing traffic, the next that of incoming. -/
  egress_first : [.inetEgress, .inetIngress] <+: attachedHooks plan
  /-- A hook is verified behind its attachment. -/
  verified_behind : ∀ front hook back, plan = front ++ .verify hook :: back →
    ∃ program, .attach program hook ∈ front
  /-- No hook is verified twice. -/
  verified_once : (verifiedHooks plan).Nodup
  /-- From 4.19.0 on every hook that is attached is verified exactly once, behind that. -/
  settled : (⟨4, 19, 0⟩ : Version) ≤ version →
    ∀ front program hook back, plan = front ++ .attach program hook :: back →
      .verify hook ∉ front ∧ back.count (.verify hook) = 1
  /-- From 4.19.0 on the hooks are verified in the order in which they are attached. -/
  in_order : (⟨4, 19, 0⟩ : Version) ≤ version → verifiedHooks plan = attachedHooks plan
  /-- Below 4.19.0 no hook is verified. -/
  unsettled : version < (⟨4, 19, 0⟩ : Version) → ∀ hook, .verify hook ∉ plan

section WellFormed

variable {version : Version} {front back : List PlanStep} {program : Program} {hook : HookPoint}

/-- Two hooks have two programs. -/
theorem HookPoint.program_injective {a b : HookPoint} (h : a.program = b.program) : a = b := by
  revert h
  cases a <;> cases b <;> decide

/-- From 4.19.0 on an attachment has its one verification behind it. -/
theorem attachPlan_settled (recent : (⟨4, 19, 0⟩ : Version) ≤ version)
    (here : attachPlan version = front ++ .attach program hook :: back) :
    .verify hook ∉ front ∧ back.count (.verify hook) = 1 := by
  have behind : .verify hook ∈ back := attachPlan_verify_of_attach recent here
  have present : .verify hook ∈ attachPlan version := by
    rw [here]
    exact List.mem_append_right _ (List.mem_cons_of_mem _ behind)
  have once : (attachPlan version).count (.verify hook) = 1 := by
    rw [← count_verifiedHooks]
    exact List.count_eq_one_of_mem (nodup_verifiedHooks_attachPlan version)
      (mem_verifiedHooks_iff.2 present)
  rw [here, List.count_append, List.count_cons_of_ne (by simp)] at once
  have some : 0 < back.count (.verify hook) := List.count_pos_iff.2 behind
  constructor
  · apply List.count_eq_zero.1
    omega
  · omega

theorem attachPlan_wellFormed (version : Version) :
    WellFormedPlan version (attachPlan version) where
  checks :=
    ⟨groupSteps [] (enabledGroups version), attachPlan_eq version,
      fun program => checkAccessible_not_mem_groupSteps program _ _⟩
  attached_once := nodup_attachedHooks_attachPlan version
  own_program program hook mem := by
    refine ⟨attachPlan_own_program mem, ?_⟩
    intro other there
    apply HookPoint.program_injective
    rw [← attachPlan_own_program mem, ← attachPlan_own_program there]
  egress_first := attachedHooks_attachPlan_starts version
  verified_behind _ _ _ here := attachPlan_attached_of_verify here
  verified_once := nodup_verifiedHooks_attachPlan version
  settled recent _ _ _ _ here := attachPlan_settled recent here
  in_order recent := verifiedHooks_attachPlan_of_recent recent
  unsettled older _ mem := attachPlan_recent_of_verify mem older

end WellFormed

/-- **The plans of all versions**: each is well-formed, and the plan of a version begins with the
plan of every version that is not above it, so that its hooks begin with the hooks of that one. -/
theorem attachPlan_wellFormed_and_grows :
    (∀ version, WellFormedPlan version (attachPlan version)) ∧
      ∀ version later : Version, version ≤ later →
        attachPlan version <+: attachPlan later ∧
          (Verdict.supported (attachPlan version)).enabledHooks <+:
            (Verdict.supported (attachPlan later)).enabledHooks := by
  refine ⟨attachPlan_wellFormed, ?_⟩
  intro version later le
  exact ⟨attachPlan_isPrefix le, attachedHooks_attachPlan_isPrefix le⟩

/-- The plan of 4.14.0 verifies nothing. That of 4.19.0 begins with it, and verifies all that it
attaches itself. -/
theorem attachPlan_grows_at_4_19 :
    (⟨4, 14, 0⟩ : Version) ≤ ⟨4, 19, 0⟩ ∧ attachPlan ⟨4, 14, 0⟩ <+: attachPlan ⟨4, 19, 0⟩ ∧
      verifiedHooks (attachPlan ⟨4, 14, 0⟩) = [] ∧
      verifiedHooks (attachPlan ⟨4, 19, 0⟩) = attachedHooks (attachPlan ⟨4, 19, 0⟩) := by
  have grows := attachPlan_wellFormed_and_grows.2 ⟨4, 14, 0⟩ ⟨4, 19, 0⟩ (by decide)
  exact ⟨by decide, grows.1, by decide, by decide⟩

end SocketAttribution
