import Mathlib.Data.List.Forall2
import Mathlib.Data.Prod.Lex
import SocketAttribution.Platform.Verdict
import SocketAttribution.Proofs.Path.Spelling

/-!
# The rules of admission

Eight rules say which platforms are refused, each with a reason of its own, and the first that is
violated decides. They are written down here in full, with their numbers, tiers and texts, and
without a word of the requirements that a verdict is computed from: a rule says what a platform must
not be, a requirement what it must be and from which tier on.

## Main definitions

* `Version.triple`, `Version.Below`: versions in the lexicographic order of their numbers.
* `AdmissionRule`, `admissionRules`: the rules.
* `FollowsRules`: a verdict is the one that the rules come to.

## Main statements

* `Version.lt_iff_triple`: the order of versions is the lexicographic one.
* `requirements_agree`: the requirements say, one by one, what the rules say.
* `evaluate_followsRules`: **every verdict is the one that the rules come to**.
-/

namespace SocketAttribution

/-! ## Versions as triples -/

namespace Version

/-- The three numbers of a version. The first of them that differs decides which is smaller. -/
def triple (v : Version) : ℕ ×ₗ ℕ ×ₗ ℕ :=
  toLex (v.major.toNat, toLex (v.minor.toNat, v.sub.toNat))

/-- The version is below the one of these numbers. -/
def Below (v : Version) (major minor sub : ℕ) : Prop :=
  v.triple < toLex (major, toLex (minor, sub))

/-- **The order of versions is the lexicographic one.** -/
theorem lt_iff_triple {a b : Version} : a < b ↔ a.triple < b.triple := by
  rw [lt_iff, triple, triple, Prod.Lex.toLex_lt_toLex, Prod.Lex.toLex_lt_toLex]
  simp only [UInt32.lt_iff_toNat_lt, ← UInt32.toNat_inj]

theorem lt_iff_below {v : Version} {major minor sub : UInt32} :
    v < ⟨major, minor, sub⟩ ↔ v.Below major.toNat minor.toNat sub.toNat := lt_iff_triple

end Version

/-! ## The rules -/

/-- A rule of admission: the platforms that violate it, and the reason that they are given. -/
structure AdmissionRule where
  Violated : PlatformFacts → Prop
  reason : String

/-- The directory is named by a path that spells `/sys/fs/cgroup`. -/
def PlatformFacts.HasCanonicalMount (facts : PlatformFacts) : Prop :=
  ∃ path, facts.cgroupPath = some path ∧
    path.Spells (["sys", "fs", "cgroup"].map fun name => (Path.ofString name).bytes)

/-- The eight rules in their order. -/
def admissionRules : List AdmissionRule :=
  [⟨fun facts => facts.cgroupPath = none ∨ facts.cgroupPath = some ⟨[]⟩, "cgroup path is missing"⟩,
    ⟨fun facts => facts.tier = .s, "S- platform is unsupported"⟩,
    ⟨fun facts => facts.kernel.version.Below 4 9 0, "kernel version < 4.9.0 is unsupported"⟩,
    ⟨fun facts => (facts.tier = .u ∨ facts.tier = .v) ∧ facts.kernel.version.Below 4 14 0,
      "U+ platform with kernel version < 4.14.0 is unsupported"⟩,
    ⟨fun facts => facts.tier = .v ∧ facts.kernel.version.Below 4 19 0,
      "V+ platform with kernel version < 4.19.0 is unsupported"⟩,
    ⟨fun facts => facts.tier = .v ∧ facts.kernel.kernel32 = true ∧
        ¬ facts.kernel.version.Below 5 16 0,
      "V+ platform with 32 bit kernel, version >= 5.16.0 is unsupported"⟩,
    ⟨fun facts => facts.kernel.userspace32 = true ∧ ¬ facts.kernel.version.Below 6 2 0,
      "32 bit userspace with Kernel version >= 6.2.0 is unsupported"⟩,
    ⟨fun facts => (facts.tier = .u ∨ facts.tier = .v) ∧ ¬ facts.HasCanonicalMount,
      "U+ platform with cg2_path != /sys/fs/cgroup is unsupported"⟩]

/-- **A verdict is the one that the rules come to**: a refusal for the reason of the first rule that
is violated, or the plan for the version of the kernel if none is. -/
structure FollowsRules (facts : PlatformFacts) (verdict : Verdict) : Prop where
  unsupported_iff : ∀ reason,
    (∃ refusal, verdict = .unsupported refusal ∧ refusal.reason = reason) ↔
      ∃ front rule back, admissionRules = front ++ rule :: back ∧ rule.reason = reason ∧
        rule.Violated facts ∧ ∀ earlier ∈ front, ¬ earlier.Violated facts
  supported_iff : ∀ plan, verdict = .supported plan ↔
    plan = attachPlan facts.kernel.version ∧ ∀ rule ∈ admissionRules, ¬ rule.Violated facts
  /-- A reason is that of one rule only. -/
  distinct : (admissionRules.map AdmissionRule.reason).Nodup

/-! ## Requirements and rules -/

section Rows

variable {facts : PlatformFacts}

theorem Tier.u_le_iff {tier : Tier} : Tier.u ≤ tier ↔ tier = .u ∨ tier = .v := by
  cases tier <;> decide

theorem Tier.v_le_iff {tier : Tier} : Tier.v ≤ tier ↔ tier = .v := by
  cases tier <;> decide

/-- Only tier S is below tier T. -/
theorem Tier.t_le_iff {tier : Tier} : Tier.t ≤ tier ↔ tier ≠ .s := by
  cases tier <;> decide

theorem Tier.s_le (tier : Tier) : Tier.s ≤ tier := Nat.zero_le _

namespace Condition

theorem not_holds_cgroupPathPresent : ¬ cgroupPathPresent.Holds facts ↔
    facts.cgroupPath = none ∨ facts.cgroupPath = some ⟨[]⟩ := by
  rw [Holds]
  rcases facts.cgroupPath with - | ⟨- | ⟨byte, bytes⟩⟩
  · simp
  · simp [Path.isEmpty]
  · simp [Path.isEmpty]

theorem not_holds_kernelAtLeast {least : Version} :
    ¬ (kernelAtLeast least).Holds facts ↔ facts.kernel.version < least := by
  rw [Holds, Version.le_iff_not_lt, not_not]

theorem not_holds_kernel32Below {most : Version} : ¬ (kernel32Below most).Holds facts ↔
    facts.kernel.kernel32 = true ∧ ¬ facts.kernel.version < most := Classical.not_imp

theorem not_holds_userspace32Below {most : Version} : ¬ (userspace32Below most).Holds facts ↔
    facts.kernel.userspace32 = true ∧ ¬ facts.kernel.version < most := Classical.not_imp

/-- The canonical mount is met in every spelling, and in no other path. -/
theorem holds_canonicalCgroupPath :
    canonicalCgroupPath.Holds facts ↔ facts.HasCanonicalMount := by
  have components : SocketAttribution.canonicalCgroupPath.components =
      .root :: (["sys", "fs", "cgroup"].map fun name => (Path.ofString name).bytes).map .name := by
    decide
  rw [Holds, PlatformFacts.HasCanonicalMount]
  refine exists_congr fun path => and_congr Option.mem_def ?_
  rw [Path.Same, components]
  exact Path.components_eq_names_iff (by decide)

end Condition

/-- A requirement says what a rule says: who does not meet the one violates the other, and is told
the same. -/
def Requirement.Agrees (requirement : Requirement) (rule : AdmissionRule) : Prop :=
  (∀ facts, requirement.Unmet facts ↔ rule.Violated facts) ∧
    requirement.refusal.reason = rule.reason

/-- A requirement of all tiers is not met where its condition does not hold. -/
theorem Requirement.unmet_of_all {condition : Condition} {refusal : Refusal} :
    (⟨.s, condition, refusal⟩ : Requirement).Unmet facts ↔ ¬ condition.Holds facts :=
  and_iff_right (Tier.s_le _)

/-- **The requirements say, one by one, what the rules say.** -/
theorem requirements_agree : List.Forall₂ Requirement.Agrees requirements admissionRules := by
  refine .cons ⟨fun facts => ?path, rfl⟩ <| .cons ⟨fun facts => ?tier, rfl⟩ <|
    .cons ⟨fun facts => ?below_4_9, rfl⟩ <| .cons ⟨fun facts => ?below_4_14, rfl⟩ <|
    .cons ⟨fun facts => ?below_4_19, rfl⟩ <| .cons ⟨fun facts => ?kernel32, rfl⟩ <|
    .cons ⟨fun facts => ?userspace32, rfl⟩ <| .cons ⟨fun facts => ?mount, rfl⟩ .nil
  case path => exact Requirement.unmet_of_all.trans Condition.not_holds_cgroupPathPresent
  case tier => exact Requirement.unmet_of_all.trans (not_congr Tier.t_le_iff |>.trans not_not)
  case below_4_9 =>
    exact Requirement.unmet_of_all.trans
      (Condition.not_holds_kernelAtLeast.trans Version.lt_iff_below)
  case below_4_14 =>
    exact and_congr Tier.u_le_iff (Condition.not_holds_kernelAtLeast.trans Version.lt_iff_below)
  case below_4_19 =>
    exact and_congr Tier.v_le_iff (Condition.not_holds_kernelAtLeast.trans Version.lt_iff_below)
  case kernel32 =>
    exact and_congr Tier.v_le_iff
      (Condition.not_holds_kernel32Below.trans (and_congr_right' (not_congr Version.lt_iff_below)))
  case userspace32 =>
    exact Requirement.unmet_of_all.trans
      (Condition.not_holds_userspace32Below.trans
        (and_congr_right' (not_congr Version.lt_iff_below)))
  case mount => exact and_congr Tier.u_le_iff (not_congr Condition.holds_canonicalCgroupPath)

end Rows

/-! ## Verdicts -/

/-- Lists that correspond in a test and in what is read off have corresponding first hits. -/
theorem map_find?_eq_of_forall₂ {α β γ : Type} {R : α → β → Prop} {as : List α} {bs : List β}
    {p : α → Bool} {q : β → Bool} {f : α → γ} {g : β → γ} (same : List.Forall₂ R as bs)
    (test : ∀ a b, R a b → p a = q b) (read : ∀ a b, R a b → f a = g b) :
    (as.find? p).map f = (bs.find? q).map g := by
  induction same with
  | nil => rfl
  | @cons a b as bs related _ ih =>
      rw [List.find?_cons, List.find?_cons, test a b related]
      cases q b with
      | true => exact congrArg some (read a b related)
      | false => exact ih

open Classical in
/-- The reason to refuse a platform is that of the first rule that it violates. -/
theorem reason_admissionFailure (facts : PlatformFacts) :
    (admissionFailure facts).map Refusal.reason =
      (admissionRules.find? fun rule => rule.Violated facts).map AdmissionRule.reason := by
  rw [admissionFailure, Option.map_map]
  refine map_find?_eq_of_forall₂ requirements_agree ?_ ?_
  · exact fun requirement rule agrees => decide_eq_decide.2 (agrees.1 facts)
  · exact fun requirement rule agrees => agrees.2

/-- **Every verdict is the one that the rules come to.** -/
theorem evaluate_followsRules (facts : PlatformFacts) : FollowsRules facts (evaluate facts) := by
  have decided := reason_admissionFailure facts
  refine ⟨fun reason => ?_, fun plan => ?_, by decide⟩
  · have refused : (∃ refusal, evaluate facts = .unsupported refusal ∧ refusal.reason = reason) ↔
        (admissionFailure facts).map Refusal.reason = some reason := by
      rw [evaluate]
      cases admissionFailure facts <;> simp
    rw [refused, decided, Option.map_eq_some_iff]
    simp only [List.find?_eq_some_iff_append, decide_eq_true_eq, Bool.not_eq_eq_eq_not,
      Bool.not_true, decide_eq_false_iff_not]
    constructor
    · rintro ⟨rule, ⟨violated, front, back, split, before⟩, told⟩
      exact ⟨front, rule, back, split, told, violated, before⟩
    · rintro ⟨front, rule, back, split, told, violated, before⟩
      exact ⟨rule, ⟨violated, front, back, split, before⟩, told⟩
  · have admitted : evaluate facts = .supported plan ↔
        plan = attachPlan facts.kernel.version ∧
          (admissionFailure facts).map Refusal.reason = none := by
      rw [evaluate]
      cases admissionFailure facts <;> simp [eq_comm]
    rw [admitted, decided, Option.map_eq_none_iff, List.find?_eq_none]
    simp only [decide_eq_true_eq]

/-- Of two rules that are violated the first decides, and a slash at the end does not matter. -/
example : evaluate ⟨.v, ⟨⟨4, 10, 0⟩, true, true⟩, some (.ofString "/sys/fs/cgroup/")⟩ =
    .unsupported .kernelBelow4_14 := by decide

end SocketAttribution
