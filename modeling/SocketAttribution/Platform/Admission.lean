import SocketAttribution.Path.Components
import SocketAttribution.Platform.Facts

/-!
# Admission of a platform

Which platforms the agent can serve. A list of requirements is gone through in order, and the first
one that a platform must meet and does not is the reason to refuse it.

## Main definitions

* `Refusal`: the reasons.
* `Requirement`, `requirements`: a condition, the tiers it is asked of, and the list of all.
* `admissionFailure`: the reason to refuse a platform, if there is one.
-/

namespace SocketAttribution

/-- Why a platform is refused. -/
inductive Refusal where
  | noCgroupPath
  | tierTooOld
  | kernelBelow4_9
  | kernelBelow4_14
  | kernelBelow4_19
  | kernel32From5_16
  | userspace32From6_2
  | foreignCgroupPath
  deriving DecidableEq, Repr

/-- The wording of a refusal. -/
def Refusal.reason : Refusal → String
  | .noCgroupPath => "cgroup path is missing"
  | .tierTooOld => "S- platform is unsupported"
  | .kernelBelow4_9 => "kernel version < 4.9.0 is unsupported"
  | .kernelBelow4_14 => "U+ platform with kernel version < 4.14.0 is unsupported"
  | .kernelBelow4_19 => "V+ platform with kernel version < 4.19.0 is unsupported"
  | .kernel32From5_16 => "V+ platform with 32 bit kernel, version >= 5.16.0 is unsupported"
  | .userspace32From6_2 => "32 bit userspace with Kernel version >= 6.2.0 is unsupported"
  | .foreignCgroupPath => "U+ platform with cg2_path != /sys/fs/cgroup is unsupported"

/-- The only mount of the cgroup tree that tier U and those after it accept. -/
def canonicalCgroupPath : Path := .ofString "/sys/fs/cgroup"

/-- What a requirement asks for. -/
inductive Condition where
  /-- A directory is named at all. -/
  | cgroupPathPresent
  | minimumTier (tier : Tier)
  | kernelAtLeast (version : Version)
  /-- A 32-bit kernel stays below the version. -/
  | kernel32Below (version : Version)
  /-- 32-bit programs run on a kernel below the version. -/
  | userspace32Below (version : Version)
  /-- The directory is the canonical mount, however its path is spelled. -/
  | canonicalCgroupPath
  deriving DecidableEq, Repr

/-- Whether a platform meets a condition. -/
def Condition.Holds (facts : PlatformFacts) : Condition → Prop
  | .cgroupPathPresent => ∃ p ∈ facts.cgroupPath, p.isEmpty = false
  | .minimumTier tier => tier ≤ facts.tier
  | .kernelAtLeast version => version ≤ facts.kernel.version
  | .kernel32Below version => facts.kernel.kernel32 = true → facts.kernel.version < version
  | .userspace32Below version => facts.kernel.userspace32 = true → facts.kernel.version < version
  | .canonicalCgroupPath =>
    ∃ p ∈ facts.cgroupPath, Path.Same p SocketAttribution.canonicalCgroupPath

instance decidableExistsMemOption {α : Type} (P : α → Prop) [DecidablePred P] :
    (o : Option α) → Decidable (∃ a ∈ o, P a)
  | none => .isFalse (by simp)
  | some a => decidable_of_iff (P a) (by simp)

instance (facts : PlatformFacts) : (c : Condition) → Decidable (c.Holds facts)
  | .cgroupPathPresent => decidableExistsMemOption _ _
  | .minimumTier tier => inferInstanceAs (Decidable (tier ≤ facts.tier))
  | .kernelAtLeast version => inferInstanceAs (Decidable (version ≤ facts.kernel.version))
  | .kernel32Below _ => inferInstanceAs (Decidable (_ → _))
  | .userspace32Below _ => inferInstanceAs (Decidable (_ → _))
  | .canonicalCgroupPath => decidableExistsMemOption _ _

/-- A condition that platforms from a tier onwards must meet. -/
structure Requirement where
  fromTier : Tier
  condition : Condition
  refusal : Refusal

/-- Whether a platform must meet the requirement and does not. -/
def Requirement.Unmet (facts : PlatformFacts) (r : Requirement) : Prop :=
  r.fromTier ≤ facts.tier ∧ ¬ r.condition.Holds facts

instance (facts : PlatformFacts) (r : Requirement) : Decidable (r.Unmet facts) :=
  inferInstanceAs (Decidable (_ ∧ _))

/-- All requirements in the order in which they are looked at. -/
def requirements : List Requirement :=
  [⟨.s, .cgroupPathPresent, .noCgroupPath⟩,
    ⟨.s, .minimumTier .t, .tierTooOld⟩,
    ⟨.s, .kernelAtLeast ⟨4, 9, 0⟩, .kernelBelow4_9⟩,
    ⟨.u, .kernelAtLeast ⟨4, 14, 0⟩, .kernelBelow4_14⟩,
    ⟨.v, .kernelAtLeast ⟨4, 19, 0⟩, .kernelBelow4_19⟩,
    ⟨.v, .kernel32Below ⟨5, 16, 0⟩, .kernel32From5_16⟩,
    ⟨.s, .userspace32Below ⟨6, 2, 0⟩, .userspace32From6_2⟩,
    ⟨.u, .canonicalCgroupPath, .foreignCgroupPath⟩]

/-- The reason to refuse a platform: that of the first requirement it does not meet. -/
def admissionFailure (facts : PlatformFacts) : Option Refusal :=
  (requirements.find? fun r => r.Unmet facts).map (·.refusal)

end SocketAttribution
