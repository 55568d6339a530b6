import Mathlib.Data.List.Flatten
import SocketAttribution.Hook.Plan
import SocketAttribution.Proofs.Dialogue.Exchange

/-!
# What a plan may contain

A plan is put together group by group. The hooks that were attached and have not been verified are
carried along, and the next group that verifies speaks for them too. So a plan verifies only what
it attached before, and attaches nothing that it leaves unverified if its last group verifies. This
module proves it of all lists of groups, by induction on them, and then of the plans of kernel
versions.

## Main definitions

* `HookPoint.program`: the program that belongs to a hook.
* `HookGroup.Settles`: what a group verifies and what it leaves to the groups behind it.

## Main statements

* `attachedHooks_groupSteps`: the hooks of a plan are those of its groups.
* `attached_of_verify`, `verify_of_attach`: verifications stand behind attachments, and every
  attachment has one behind it.
* `attachPlan_checks_first`, …, `attachPlan_verify_of_attach`: the plans of kernel versions.
-/

namespace SocketAttribution

/-- The program that belongs to a hook. -/
def HookPoint.program : HookPoint → Program
  | .inetEgress => .egressStats
  | .inetIngress => .ingressStats
  | .inetSockCreate => .sockCreate
  | .inet4Bind => .blockBind4
  | .inet6Bind => .blockBind6
  | .setSockOpt => .setSockOpt

/-- **A version that is not below one that is not below a third is not below it either.** -/
theorem Version.le_trans {a b c : Version} (ab : a ≤ b) (bc : b ≤ c) : a ≤ c := by
  rw [le_iff_not_lt, lt_iff] at ab bc ⊢
  simp only [UInt32.lt_iff_toNat_lt, ← UInt32.toNat_inj] at ab bc ⊢
  omega

/-! ## Groups -/

namespace HookGroup

variable (group : HookGroup)

theorem attachedHooks_attachSteps : attachedHooks group.attachSteps = group.hooks.map (·.2) := by
  rw [attachedHooks, attachSteps, List.filterMap_map]
  exact congrFun List.filterMap_eq_map group.hooks

theorem attach_mem_attachSteps_iff {program : Program} {hook : HookPoint} :
    .attach program hook ∈ group.attachSteps ↔ (program, hook) ∈ group.hooks := by
  constructor
  · intro mem
    obtain ⟨entry, there, same⟩ := List.mem_map.1 mem
    cases same
    exact there
  · intro mem
    exact List.mem_map.2 ⟨_, mem, rfl⟩

theorem verify_not_mem_attachSteps (hook : HookPoint) : .verify hook ∉ group.attachSteps := by
  intro mem
  obtain ⟨entry, -, same⟩ := List.mem_map.1 mem
  cases same

end HookGroup

/-- A verification attaches nothing. -/
theorem attachedHooks_verify (hooks : List HookPoint) : attachedHooks (hooks.map .verify) = [] := by
  rw [attachedHooks, List.filterMap_map]
  exact List.filterMap_eq_nil_iff.2 fun hook _ => rfl

theorem attach_not_mem_verify {program : Program} {hook : HookPoint} (hooks : List HookPoint) :
    PlanStep.attach program hook ∉ hooks.map .verify := by
  intro mem
  obtain ⟨verified, -, same⟩ := List.mem_map.1 mem
  cases same

/-- What a plan attaches is among its attached hooks. -/
theorem mem_attachedHooks_iff {plan : List PlanStep} {hook : HookPoint} :
    hook ∈ attachedHooks plan ↔ ∃ program, .attach program hook ∈ plan := by
  rw [attachedHooks, List.mem_filterMap]
  constructor
  · rintro ⟨step, mem, attaches⟩
    cases step with
    | attach program other =>
        cases attaches
        exact ⟨program, mem⟩
    | checkAccessible program => cases attaches
    | verify other => cases attaches
  · rintro ⟨program, mem⟩
    exact ⟨_, mem, rfl⟩

/-! ## Steps of groups -/

section Groups

variable {pending : List HookPoint} {groups : List HookGroup} {front back : List PlanStep}
  {program : Program} {hook : HookPoint}

/-- What a group verifies of its own hooks and of those that it finds pending, and what it leaves
pending: it verifies all of them, or hands all of them on. -/
inductive HookGroup.Settles (group : HookGroup) (pending : List HookPoint) :
    List HookPoint → List HookPoint → Prop where
  | verifying (verifies : group.verifies = true) :
    group.Settles pending (pending ++ group.hooks.map (·.2)) []
  | handingOn (silent : group.verifies = false) :
    group.Settles pending [] (pending ++ group.hooks.map (·.2))

/-- The steps of a group, then those of the groups behind it. -/
theorem groupSteps_cons (pending : List HookPoint) (group : HookGroup) (rest : List HookGroup) :
    ∃ verified pending', group.Settles pending verified pending' ∧
      groupSteps pending (group :: rest) =
        group.attachSteps ++ (verified.map .verify ++ groupSteps pending' rest) := by
  rw [groupSteps]
  cases verifies : group.verifies with
  | true => exact ⟨_, _, .verifying verifies, List.append_assoc ..⟩
  | false => exact ⟨_, _, .handingOn verifies, rfl⟩

/-- **The hooks of a plan are those of its groups, in their order.** -/
theorem attachedHooks_groupSteps (pending : List HookPoint) (groups : List HookGroup) :
    attachedHooks (groupSteps pending groups) = groups.flatMap fun g => g.hooks.map (·.2) := by
  induction groups generalizing pending with
  | nil => rfl
  | cons group rest ih =>
      obtain ⟨verified, pending', -, steps⟩ := groupSteps_cons pending group rest
      rw [steps, attachedHooks_append, attachedHooks_append, attachedHooks_verify, ih,
        group.attachedHooks_attachSteps, List.flatMap_cons, List.nil_append]

/-- What is attached is an entry of a group. -/
theorem entry_of_attach (mem : .attach program hook ∈ groupSteps pending groups) :
    ∃ group ∈ groups, (program, hook) ∈ group.hooks := by
  induction groups generalizing pending with
  | nil => cases mem
  | cons group rest ih =>
      obtain ⟨verified, pending', -, steps⟩ := groupSteps_cons pending group rest
      rw [steps, List.mem_append, List.mem_append] at mem
      rcases mem with mem | mem | mem
      · exact ⟨group, List.mem_cons_self, group.attach_mem_attachSteps_iff.1 mem⟩
      · exact absurd mem (attach_not_mem_verify verified)
      · obtain ⟨other, there, entry⟩ := ih mem
        exact ⟨other, List.mem_cons_of_mem _ there, entry⟩

/-- What is verified, is so by a group that verifies. -/
theorem verifies_of_verify (mem : .verify hook ∈ groupSteps pending groups) :
    ∃ group ∈ groups, group.verifies = true := by
  induction groups generalizing pending with
  | nil => cases mem
  | cons group rest ih =>
      obtain ⟨verified, pending', settles, steps⟩ := groupSteps_cons pending group rest
      cases settles with
      | verifying verifies => exact ⟨group, List.mem_cons_self, verifies⟩
      | handingOn silent =>
          rw [steps, List.map_nil, List.nil_append, List.mem_append] at mem
          rcases mem with mem | mem
          · exact absurd mem (group.verify_not_mem_attachSteps hook)
          · obtain ⟨other, there, verifies⟩ := ih mem
            exact ⟨other, List.mem_cons_of_mem _ there, verifies⟩

/-- **A verification stands behind the attachment**, or the hook was pending at first. -/
theorem attached_of_verify (here : groupSteps pending groups = front ++ .verify hook :: back) :
    hook ∈ pending ∨ hook ∈ attachedHooks front := by
  induction groups generalizing pending front with
  | nil => simp [groupSteps] at here
  | cons group rest ih =>
      obtain ⟨verified, pending', settles, steps⟩ := groupSteps_cons pending group rest
      have own : attachedHooks group.attachSteps = group.hooks.map (·.2) :=
        group.attachedHooks_attachSteps
      rw [steps] at here
      -- The verification is one of this group, which verifies what it carries and its own hooks, or
      -- one of a later group, to which this one has handed on what it did not verify.
      rcases eq_append_cons_cases here with ⟨later, there, -⟩ | ⟨front', rfl, inner⟩
      · have mem : .verify hook ∈ group.attachSteps := by
          rw [there]
          exact List.mem_append_cons_self
        exact absurd mem (group.verify_not_mem_attachSteps hook)
      rw [attachedHooks_append, own, List.mem_append, ← or_assoc, ← List.mem_append]
      rcases eq_append_cons_cases inner with ⟨later, there, -⟩ | ⟨front'', rfl, deeper⟩
      · have mem : .verify hook ∈ verified.map PlanStep.verify := by
          rw [there]
          exact List.mem_append_cons_self
        obtain ⟨other, known, same⟩ := List.mem_map.1 mem
        cases same
        cases settles with
        | verifying verifies => exact .inl known
        | handingOn silent => cases known
      · rw [attachedHooks_append, attachedHooks_verify, List.nil_append]
        rcases ih deeper with old | new
        · cases settles with
          | verifying verifies => cases old
          | handingOn silent => exact .inl old
        · exact .inr new

/-- The groups that follow end as all groups do. -/
theorem last_verifies_tail {group : HookGroup} {rest : List HookGroup}
    (last : ∀ init g, group :: rest = init ++ [g] → g.verifies = true) :
    ∀ init g, rest = init ++ [g] → g.verifies = true := by
  intro init g same
  exact last (group :: init) g (by rw [same]; rfl)

/-- **What a group attaches or finds pending is verified** by itself or by a group behind it, if the
last group verifies. -/
theorem verify_of_settles {group : HookGroup} {rest : List HookGroup}
    {verified pending' : List HookPoint}
    (last : ∀ init g, group :: rest = init ++ [g] → g.verifies = true)
    (settles : group.Settles pending verified pending')
    (known : hook ∈ pending ++ group.hooks.map (·.2)) :
    .verify hook ∈ verified.map .verify ++ groupSteps pending' rest := by
  induction rest generalizing group pending verified pending' with
  | nil =>
      cases settles with
      | verifying verifies => exact List.mem_append_left _ (List.mem_map.2 ⟨hook, known, rfl⟩)
      | handingOn silent =>
          exact absurd (silent.symm.trans (last [] group rfl)) Bool.false_ne_true
  | cons next rest ih =>
      cases settles with
      | verifying verifies => exact List.mem_append_left _ (List.mem_map.2 ⟨hook, known, rfl⟩)
      | handingOn silent =>
          -- What is handed on is pending for the next group, and so among what that one settles.
          obtain ⟨verified, pending', settles, steps⟩ :=
            groupSteps_cons (pending ++ group.hooks.map (·.2)) next rest
          rw [steps, List.map_nil, List.nil_append]
          apply List.mem_append_right
          exact ih (last_verifies_tail last) settles (List.mem_append_left _ known)

/-- **Every attachment has a verification behind it** if the last group verifies. -/
theorem verify_of_attach (last : ∀ init g, groups = init ++ [g] → g.verifies = true)
    (here : groupSteps pending groups = front ++ .attach program hook :: back) :
    .verify hook ∈ back := by
  induction groups generalizing pending front with
  | nil => simp [groupSteps] at here
  | cons group rest ih =>
      obtain ⟨verified, pending', settles, steps⟩ := groupSteps_cons pending group rest
      rw [steps] at here
      rcases eq_append_cons_cases here with ⟨later, there, rfl⟩ | ⟨front', rfl, inner⟩
      · have mem : .attach program hook ∈ group.attachSteps := by
          rw [there]
          exact List.mem_append_cons_self
        have own : hook ∈ group.hooks.map (·.2) :=
          List.mem_map.2 ⟨_, group.attach_mem_attachSteps_iff.1 mem, rfl⟩
        apply List.mem_append_right
        exact verify_of_settles last settles (List.mem_append_right _ own)
      rcases eq_append_cons_cases inner with ⟨later, there, -⟩ | ⟨front'', rfl, deeper⟩
      · have mem : .attach program hook ∈ verified.map PlanStep.verify := by
          rw [there]
          exact List.mem_append_cons_self
        exact absurd mem (attach_not_mem_verify verified)
      · exact ih (last_verifies_tail last) deeper

end Groups

/-! ## Plans of kernel versions -/

section Plans

variable {version : Version} {front back : List PlanStep} {program : Program} {hook : HookPoint}

/-- The groups that a version enables. -/
def enabledGroups (version : Version) : List HookGroup :=
  hookGroups.filter fun group => group.Enabled version

theorem attachPlan_eq (version : Version) :
    attachPlan version =
      socketFilters.map .checkAccessible ++ groupSteps [] (enabledGroups version) := rfl

/-- **A step that is not a check** stands behind all checks, among the steps of the groups. -/
theorem attachPlan_behind_checks {step : PlanStep}
    (other : ∀ filter, step ≠ .checkAccessible filter)
    (here : attachPlan version = front ++ step :: back) :
    ∃ earlier, front = socketFilters.map .checkAccessible ++ earlier ∧
      groupSteps [] (enabledGroups version) = earlier ++ step :: back := by
  rw [attachPlan_eq] at here
  rcases eq_append_cons_cases here with ⟨later, there, -⟩ | behind
  · have checked : step ∈ socketFilters.map PlanStep.checkAccessible := by
      rw [there]
      exact List.mem_append_cons_self
    obtain ⟨filter, -, same⟩ := List.mem_map.1 checked
    exact absurd same.symm (other filter)
  · exact behind

theorem mem_groupSteps_of_mem_attachPlan {step : PlanStep}
    (other : ∀ filter, step ≠ .checkAccessible filter) (mem : step ∈ attachPlan version) :
    step ∈ groupSteps [] (enabledGroups version) := by
  obtain ⟨front, back, here⟩ := List.append_of_mem mem
  obtain ⟨earlier, -, there⟩ := attachPlan_behind_checks other here
  rw [there]
  exact List.mem_append_cons_self

/-- **All socket filters are checked before anything is attached.** -/
theorem attachPlan_checks_first
    (here : attachPlan version = front ++ .attach program hook :: back) :
    ∀ filter ∈ socketFilters, .checkAccessible filter ∈ front := by
  intro filter mem
  obtain ⟨earlier, rfl, -⟩ := attachPlan_behind_checks (by simp) here
  exact List.mem_append_left _ (List.mem_map.2 ⟨filter, mem, rfl⟩)

/-- **Every hook gets its own program.** -/
theorem attachPlan_own_program (mem : .attach program hook ∈ attachPlan version) :
    program = hook.program := by
  obtain ⟨group, there, entry⟩ :=
    entry_of_attach (mem_groupSteps_of_mem_attachPlan (by simp) mem)
  have table : ∀ group ∈ hookGroups, ∀ entry ∈ group.hooks, entry.1 = entry.2.program := by
    decide
  exact table group (List.mem_filter.1 there).1 (program, hook) entry

/-- **No hook is attached twice.** -/
theorem nodup_attachedHooks_attachPlan (version : Version) :
    (attachedHooks (attachPlan version)).Nodup := by
  have all : (hookGroups.flatMap fun g => g.hooks.map (·.2)).Nodup := by decide
  have checks : attachedHooks (socketFilters.map .checkAccessible) = [] := by decide
  rw [attachPlan_eq, attachedHooks_append, checks, attachedHooks_groupSteps, List.nil_append]
  have fewer : (enabledGroups version).Sublist hookGroups := List.filter_sublist
  exact (fewer.flatMap _).nodup all

/-- **Only what was attached is verified.** -/
theorem attachPlan_attached_of_verify
    (here : attachPlan version = front ++ .verify hook :: back) :
    ∃ program, .attach program hook ∈ front := by
  obtain ⟨earlier, rfl, there⟩ := attachPlan_behind_checks (by simp) here
  rcases attached_of_verify there with old | new
  · cases old
  · obtain ⟨program, mem⟩ := mem_attachedHooks_iff.1 new
    exact ⟨program, List.mem_append_right _ mem⟩

/-- From 4.19.0 on the last group verifies. -/
theorem last_enabled_verifies (recent : (⟨4, 19, 0⟩ : Version) ≤ version) :
    ∀ init g, enabledGroups version = init ++ [g] → g.verifies = true := by
  have older : (⟨4, 14, 0⟩ : Version) ≤ version := Version.le_trans (by decide) recent
  intro init g ends
  have last : (enabledGroups version).getLast? = some g := by rw [ends, List.getLast?_concat]
  by_cases newest : (⟨5, 8, 0⟩ : Version) ≤ version
  · simp [enabledGroups, hookGroups, HookGroup.Enabled, older, recent, newest] at last
    rw [← last]
  · simp [enabledGroups, hookGroups, HookGroup.Enabled, older, recent, newest] at last
    rw [← last]

/-- **From 4.19.0 on every attachment has a verification behind it.** -/
theorem attachPlan_verify_of_attach (recent : (⟨4, 19, 0⟩ : Version) ≤ version)
    (here : attachPlan version = front ++ .attach program hook :: back) : .verify hook ∈ back := by
  obtain ⟨earlier, -, there⟩ := attachPlan_behind_checks (by simp) here
  exact verify_of_attach (last_enabled_verifies recent) there

/-- **Below 4.19.0 nothing is verified.** -/
theorem attachPlan_recent_of_verify (mem : .verify hook ∈ attachPlan version) :
    (⟨4, 19, 0⟩ : Version) ≤ version := by
  obtain ⟨group, there, verifies⟩ :=
    verifies_of_verify (mem_groupSteps_of_mem_attachPlan (by simp) mem)
  obtain ⟨listed, enabled⟩ := List.mem_filter.1 there
  have minimum : ∀ group ∈ hookGroups, group.verifies = true →
      ∃ least ∈ group.minimum, (⟨4, 19, 0⟩ : Version) ≤ least := by decide
  obtain ⟨least, asked, above⟩ := minimum group listed verifies
  exact Version.le_trans above (of_decide_eq_true enabled least asked)

end Plans

end SocketAttribution
