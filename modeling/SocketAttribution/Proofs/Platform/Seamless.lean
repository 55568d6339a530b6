import SocketAttribution.Proofs.Platform.Admission

/-!
# Admission without holes and inversions

A requirement is a floor or a ceiling. Floors ask for a version, for a tier or for a directory;
ceilings bound the version, and only where something is 32 bits wide. What is asked grows with the
tier. So a platform that lies between two admitted ones stands above the floors of the lower and
below the ceilings of the upper one, and is admitted as well. Which ranges of versions, tiers and
widths are admitted follows from this alone.

## Main definitions

* `PlatformFacts.Supported`: a platform is admitted.
* `PlatformFacts.Between`: a platform lies between two others.
* `Seamless`: what is admitted around a platform.

## Main statements

* `PlatformFacts.Between.holds`: **what two platforms meet is met between them**, one case for each
  kind of condition.
* `PlatformFacts.Between.supported`: between two admitted platforms all are admitted.
* `admission_seamless`: there are no holes and no inversions around any platform.
-/

namespace SocketAttribution

namespace Version

theorem le_refl (version : Version) : version ≤ version := by
  rw [le_iff_not_lt, lt_iff]
  simp only [UInt32.lt_iff_toNat_lt]
  omega

theorem lt_of_le_of_lt {a b c : Version} (ab : a ≤ b) (bc : b < c) : a < c := by
  refine Decidable.of_not_not fun ca => ?_
  exact le_iff_not_lt.1 (le_trans (le_iff_not_lt.2 ca) ab) bc

end Version

namespace Tier

theorem le_trans {a b c : Tier} (ab : a ≤ b) (bc : b ≤ c) : a ≤ c := Nat.le_trans ab bc

theorem mem_all (tier : Tier) : tier ∈ all := by cases tier <;> decide

end Tier

/-! ## Between two platforms -/

namespace PlatformFacts

/-- The platform is admitted, with whatever plan. -/
def Supported (facts : PlatformFacts) : Prop := ∃ plan, evaluate facts = .supported plan

/-- A platform lies **between** two others if its version is not below that of the lower one, and
not above that of the upper one where something in it is 32 bits wide. Its tier is served, and none
above those of the two. -/
structure Between (low high facts : PlatformFacts) : Prop where
  path : facts.cgroupPath = low.cgroupPath
  served : Tier.t ≤ facts.tier
  tier_low : facts.tier ≤ low.tier
  tier_high : facts.tier ≤ high.tier
  least : low.kernel.version ≤ facts.kernel.version
  kernel32 : facts.kernel.kernel32 = true →
    high.kernel.kernel32 = true ∧ facts.kernel.version ≤ high.kernel.version
  userspace32 : facts.kernel.userspace32 = true →
    high.kernel.userspace32 = true ∧ facts.kernel.version ≤ high.kernel.version

variable {low high facts : PlatformFacts}

/-- Who is admitted meets all that is asked of his tier, and nobody else is. -/
theorem supported_iff :
    facts.Supported ↔ ∀ r ∈ requirements, r.fromTier ≤ facts.tier → r.condition.Holds facts := by
  simp only [Supported, evaluate_eq_supported_iff, exists_eq_left]

/-- Tier T is the highest that is asked for as such. -/
theorem minimumTier_le {r : Requirement} (listed : r ∈ requirements) {tier : Tier}
    (asks : r.condition = .minimumTier tier) : tier ≤ .t := by
  have table : ∀ r ∈ requirements, ∀ tier ∈ Tier.all, r.condition = .minimumTier tier →
      tier ≤ .t := by decide
  exact table r listed tier (Tier.mem_all tier) asks

/-- **What two platforms meet is met between them**: floors are those of the lower platform, and
ceilings those of the upper one. -/
theorem Between.holds (between : Between low high facts) {condition : Condition}
    (tiers : ∀ tier, condition = .minimumTier tier → tier ≤ .t)
    (at_low : condition.Holds low) (at_high : condition.Holds high) : condition.Holds facts := by
  cases condition with
  | cgroupPathPresent =>
      rw [Condition.Holds, between.path]
      exact at_low
  | minimumTier tier => exact Tier.le_trans (tiers tier rfl) between.served
  | kernelAtLeast version => exact Version.le_trans at_low between.least
  | kernel32Below version =>
      intro narrow
      obtain ⟨narrow_high, below⟩ := between.kernel32 narrow
      exact Version.lt_of_le_of_lt below (at_high narrow_high)
  | userspace32Below version =>
      intro narrow
      obtain ⟨narrow_high, below⟩ := between.userspace32 narrow
      exact Version.lt_of_le_of_lt below (at_high narrow_high)
  | canonicalCgroupPath =>
      rw [Condition.Holds, between.path]
      exact at_low

/-- **Between two admitted platforms all are admitted.** -/
theorem Between.supported (between : Between low high facts) (at_low : low.Supported)
    (at_high : high.Supported) : facts.Supported := by
  rw [supported_iff] at at_low at_high ⊢
  intro r listed asked
  have low_asked : r.fromTier ≤ low.tier := Tier.le_trans asked between.tier_low
  have high_asked : r.fromTier ≤ high.tier := Tier.le_trans asked between.tier_high
  exact between.holds (fun _ => minimumTier_le listed) (at_low r listed low_asked)
    (at_high r listed high_asked)

/-- Only tiers from T on are admitted. -/
theorem Supported.served (supported : facts.Supported) : Tier.t ≤ facts.tier := by
  have listed : (⟨.s, .minimumTier .t, .tierTooOld⟩ : Requirement) ∈ requirements := by
    simp [requirements]
  exact supported_iff.1 supported _ listed (Nat.zero_le _)

/-- Every admitted platform lies between itself and itself. -/
theorem Supported.between_self (supported : facts.Supported) : Between facts facts facts where
  path := rfl
  served := supported.served
  tier_low := Nat.le_refl _
  tier_high := Nat.le_refl _
  least := Version.le_refl _
  kernel32 := fun narrow => ⟨narrow, Version.le_refl _⟩
  userspace32 := fun narrow => ⟨narrow, Version.le_refl _⟩

/-! ## Neighbours of a platform -/

/-- The same platform with another kernel version. -/
def atVersion (facts : PlatformFacts) (version : Version) : PlatformFacts :=
  { facts with kernel.version := version }

/-- The same platform at another tier. -/
def atTier (facts : PlatformFacts) (tier : Tier) : PlatformFacts := { facts with tier }

/-- The same platform with a 64-bit kernel. -/
def kernel64 (facts : PlatformFacts) : PlatformFacts := { facts with kernel.kernel32 := false }

/-- The same platform with 64-bit programs. -/
def userspace64 (facts : PlatformFacts) : PlatformFacts :=
  { facts with kernel.userspace32 := false }

end PlatformFacts

/-- **What is admitted around a platform**: versions without holes, lower tiers down to T, and
everything of twice the width. -/
structure Seamless (facts : PlatformFacts) : Prop where
  /-- Between two versions that are admitted all are. -/
  no_hole : ∀ v₁ v₂ v₃, v₁ ≤ v₂ → v₂ ≤ v₃ → (facts.atVersion v₁).Supported →
    (facts.atVersion v₃).Supported → (facts.atVersion v₂).Supported
  /-- With 64 bits throughout, an upgrade never ends the service. -/
  upgrade : facts.kernel.kernel32 = false → facts.kernel.userspace32 = false →
    ∀ v₁ v₂, v₁ ≤ v₂ → (facts.atVersion v₁).Supported → (facts.atVersion v₂).Supported
  /-- Who is admitted at a tier is so at every lower one that is served. -/
  lower_tier : ∀ tier₁ tier₂, Tier.t ≤ tier₁ → tier₁ ≤ tier₂ → (facts.atTier tier₂).Supported →
    (facts.atTier tier₁).Supported
  /-- Tier S is not served. -/
  never_s : ¬ (facts.atTier .s).Supported
  kernel64 : facts.Supported → facts.kernel64.Supported
  userspace64 : facts.Supported → facts.userspace64.Supported

open PlatformFacts in
/-- **There are no holes and no inversions** around any platform. -/
theorem admission_seamless (facts : PlatformFacts) : Seamless facts := by
  refine ⟨?no_hole, ?upgrade, ?lower_tier, ?never_s, ?kernel64, ?userspace64⟩
  case no_hole =>
    intro v₁ v₂ v₃ least most at_low at_high
    have between : Between (facts.atVersion v₁) (facts.atVersion v₃) (facts.atVersion v₂) :=
      { at_low.between_self with
        least := least
        kernel32 := fun narrow => ⟨narrow, most⟩
        userspace32 := fun narrow => ⟨narrow, most⟩ }
    exact between.supported at_low at_high
  case upgrade =>
    intro wide_kernel wide_userspace v₁ v₂ least at_low
    have between : Between (facts.atVersion v₁) (facts.atVersion v₁) (facts.atVersion v₂) :=
      { at_low.between_self with
        least := least
        kernel32 := fun narrow => absurd (wide_kernel.symm.trans narrow) Bool.false_ne_true
        userspace32 := fun narrow => absurd (wide_userspace.symm.trans narrow) Bool.false_ne_true }
    exact between.supported at_low at_low
  case lower_tier =>
    intro tier₁ tier₂ served below at_high
    have between : Between (facts.atTier tier₂) (facts.atTier tier₂) (facts.atTier tier₁) :=
      { at_high.between_self with
        served := served
        tier_low := below
        tier_high := below }
    exact between.supported at_high at_high
  case never_s =>
    intro supported
    have served : Tier.t ≤ Tier.s := supported.served
    exact absurd served (by decide)
  case kernel64 =>
    intro supported
    have between : Between facts facts facts.kernel64 :=
      { supported.between_self with
        kernel32 := fun narrow => absurd narrow Bool.false_ne_true }
    exact between.supported supported supported
  case userspace64 =>
    intro supported
    have between : Between facts facts facts.userspace64 :=
      { supported.between_self with
        userspace32 := fun narrow => absurd narrow Bool.false_ne_true }
    exact between.supported supported supported

/-- An upgrade may well end the service where programs are 32-bit ones. -/
example :
    let facts (version : Version) : PlatformFacts :=
      ⟨.t, ⟨version, false, true⟩, some (.ofString "/mnt/cg2")⟩
    evaluate (facts ⟨6, 1, 9⟩) = .supported (attachPlan ⟨6, 1, 9⟩) ∧
      evaluate (facts ⟨6, 2, 0⟩) = .unsupported .userspace32From6_2 := by decide

end SocketAttribution
