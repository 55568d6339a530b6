import Mathlib.Data.List.Infix
import SocketAttribution.Proofs.Path.Respelling
import SocketAttribution.Proofs.Platform.Rules
import SocketAttribution.Proofs.Platform.Seamless

/-!
# The test of the mount

From tier U on the directory that hooks attach to must be the canonical mount. The test goes by what
its path says: the pieces between its slashes, but for empty ones and single dots. Of a platform
that meets all else the verdict is therefore known from the first byte of its path and from what the
path says, and is the same for every spelling. Steps up are not resolved and bytes are not
interpreted, so no path that holds anything else is ever taken for the mount.

## Main definitions

* `canonicalNames`: what the path of the canonical mount says.
* `PlatformFacts.MeetsAllElse`: nothing is amiss, but perhaps the mount.
* `MountTest`: how platforms are judged by the paths of their directories.

## Main statements

* `PlatformFacts.evaluate_atMount`: the verdict on a platform that meets all else.
* `mountTest_byPieces`: **the mount is judged by the pieces of its path**.
-/

namespace SocketAttribution

/-- What the path of the canonical mount says. -/
def canonicalNames : List (List UInt8) :=
  ["sys", "fs", "cgroup"].map fun name => (Path.ofString name).bytes

namespace PlatformFacts

/-- The same platform with hooks to be attached to the directory of this path. -/
def atMount (facts : PlatformFacts) (p : Path) : PlatformFacts :=
  { facts with cgroupPath := some p }

/-- Every requirement is met, but perhaps the one that the directory be the canonical mount. -/
def MeetsAllElse (facts : PlatformFacts) : Prop :=
  ∀ r ∈ requirements, r.condition ≠ .canonicalCgroupPath → ¬ r.Unmet facts

instance (facts : PlatformFacts) : Decidable facts.MeetsAllElse :=
  inferInstanceAs (Decidable (∀ _ ∈ _, _))

end PlatformFacts

/-- **How platforms are judged by the paths of their directories**, all else being as in `facts`. -/
structure MountTest (facts : PlatformFacts) : Prop where
  /-- A platform that meets all else is admitted if and only if its path begins with a slash and its
  pieces, but for empty ones and single dots, are `sys`, `fs` and `cgroup`. -/
  supported_iff : ∀ p, (facts.atMount p).MeetsAllElse →
    ((facts.atMount p).Supported ↔
      p.bytes.head? = some Path.slash ∧ Path.said p.bytes = canonicalNames)
  /-- If it is not admitted, it is told that its directory is not the mount. -/
  told : ∀ p, (facts.atMount p).MeetsAllElse → ¬ (facts.atMount p).Supported →
    evaluate (facts.atMount p) = .unsupported .foreignCgroupPath
  /-- Slashes repeated or put at the end and dots behind slashes do not change the verdict, whether
  they are put in or left out, and however often. -/
  respelled : ∀ p q, Relation.EqvGen Path.Padded p q → (facts.atMount p).MeetsAllElse →
    (facts.atMount q).MeetsAllElse → evaluate (facts.atMount p) = evaluate (facts.atMount q)
  /-- Whatever else is met, a path with a step up is refused. -/
  step_up : ∀ p, Path.dotDot ∈ p.bytes.splitOn Path.slash → ¬ (facts.atMount p).Supported
  /-- So is one that does not begin with a slash, -/
  relative : ∀ p, p.bytes.head? ≠ some Path.slash → ¬ (facts.atMount p).Supported
  /-- one that says other names, or fewer, or more, -/
  other_names : ∀ p, Path.said p.bytes ≠ canonicalNames → ¬ (facts.atMount p).Supported
  /-- one that ends too early, -/
  cut_off : ∀ p, p.bytes <+: canonicalCgroupPath.bytes → p ≠ canonicalCgroupPath →
    ¬ (facts.atMount p).Supported
  /-- one with a byte that is neither in `/sys/fs/cgroup` nor a dot, -/
  other_bytes : ∀ p, ∀ b ∈ p.bytes, b ∉ canonicalCgroupPath.bytes → b ∉ Path.dot →
    ¬ (facts.atMount p).Supported
  /-- and one that is not even text. -/
  no_text : ∀ p, p.text? = none → ¬ (facts.atMount p).Supported
  /-- A path that goes on behind `/sys/fs/cgroup` must do so with a slash and say nothing more. -/
  extended : ∀ rest, (facts.atMount ⟨canonicalCgroupPath.bytes ++ rest⟩).Supported →
    (rest = [] ∨ rest.head? = some Path.slash) ∧ Path.said rest = []

namespace PlatformFacts

variable {facts : PlatformFacts} {p q : Path}

/-- The directory is the mount if its path says what that of the mount says. -/
theorem holds_atMount_iff :
    Condition.canonicalCgroupPath.Holds (facts.atMount p) ↔ p.Reads canonicalNames := by
  rw [Condition.holds_canonicalCgroupPath, HasCanonicalMount, ← Path.spells_iff_reads]
  constructor
  · rintro ⟨path, same, spells⟩
    cases same
    exact spells
  · exact fun spells => ⟨p, rfl, spells⟩

/-- From tier U on a platform is admitted if it meets all else and the path is that of the mount. -/
theorem supported_atMount_iff (tier : Tier.u ≤ facts.tier) :
    (facts.atMount p).Supported ↔ (facts.atMount p).MeetsAllElse ∧ p.Reads canonicalNames := by
  rw [supported_iff, ← @holds_atMount_iff facts]
  constructor
  · intro holds
    have listed :
        (⟨.u, .canonicalCgroupPath, .foreignCgroupPath⟩ : Requirement) ∈ requirements := by
      simp [requirements]
    exact ⟨fun r there _ unmet => unmet.2 (holds r there unmet.1), holds _ listed tier⟩
  · rintro ⟨else_met, mount⟩ r listed asked
    by_cases about : r.condition = .canonicalCgroupPath
    · rwa [about]
    · by_contra fails
      exact else_met r listed about ⟨asked, fails⟩

/-- The path of the mount, however it is spelled, has no bytes but those of `/sys/fs/cgroup` and
dots. -/
theorem byte_mem_of_reads (reads : p.Reads canonicalNames) {b : UInt8} (mem : b ∈ p.bytes) :
    b ∈ canonicalCgroupPath.bytes ∨ b ∈ Path.dot := by
  have table :
      (Path.slash :: canonicalNames.flatten).all (· ∈ canonicalCgroupPath.bytes) = true := by
    decide
  have known {b : UInt8} (mem : b ∈ Path.slash :: canonicalNames.flatten) :
      b ∈ canonicalCgroupPath.bytes := of_decide_eq_true (List.all_eq_true.1 table b mem)
  rcases reads.byte_mem mem with rfl | dot | ⟨name, listed, mem⟩
  · exact .inl (known List.mem_cons_self)
  · exact .inr dot
  · exact .inl (known (List.mem_cons_of_mem _ (List.mem_flatten.2 ⟨name, listed, mem⟩)))

/-- The mount is asked for last, so it is the reason only if all else is met. -/
theorem admissionFailure_atMount (tier : Tier.u ≤ facts.tier)
    (else_met : (facts.atMount p).MeetsAllElse) (foreign : ¬ p.Reads canonicalNames) :
    admissionFailure (facts.atMount p) = some .foreignCgroupPath := by
  obtain ⟨front, whole, others⟩ : ∃ front,
      requirements = front ++ [⟨.u, .canonicalCgroupPath, .foreignCgroupPath⟩] ∧
        ∀ r ∈ front, r.condition ≠ .canonicalCgroupPath :=
    ⟨requirements.dropLast, rfl, by decide⟩
  rw [admissionFailure, Option.map_eq_some_iff]
  refine ⟨⟨.u, .canonicalCgroupPath, .foreignCgroupPath⟩, ?_, rfl⟩
  rw [List.find?_eq_some_iff_append]
  refine ⟨decide_eq_true ⟨tier, fun holds => foreign (holds_atMount_iff.1 holds)⟩, front, [], whole,
    fun r there => ?_⟩
  have listed : r ∈ requirements := whole ▸ List.mem_append_left _ there
  simpa using else_met r listed (others r there)

/-- **The verdict on a platform that meets all else**: its own plan, or a word about the mount. -/
theorem evaluate_atMount (tier : Tier.u ≤ facts.tier) (else_met : (facts.atMount p).MeetsAllElse) :
    evaluate (facts.atMount p) =
      if p.Reads canonicalNames then .supported (attachPlan facts.kernel.version)
      else .unsupported .foreignCgroupPath := by
  by_cases reads : p.Reads canonicalNames
  · obtain ⟨plan, verdict⟩ := (supported_atMount_iff tier).2 ⟨else_met, reads⟩
    rw [if_pos reads, verdict, evaluate_supported verdict]
    rfl
  · rw [if_neg reads, evaluate, admissionFailure_atMount tier else_met reads]

end PlatformFacts

open PlatformFacts in
/-- **From tier U on the mount is judged by the pieces of its path.** -/
theorem mountTest_byPieces (facts : PlatformFacts) (tier : facts.tier = .u ∨ facts.tier = .v) :
    MountTest facts := by
  have reached : Tier.u ≤ facts.tier := Tier.u_le_iff.2 tier
  have reads_of {p : Path} (supported : (facts.atMount p).Supported) : p.Reads canonicalNames :=
    ((supported_atMount_iff reached).1 supported).2
  refine ⟨?supported_iff, ?told, ?respelled, ?step_up, ?relative, ?other_names, ?cut_off,
    ?other_bytes, ?no_text, ?extended⟩
  case supported_iff =>
    intro p else_met
    rw [supported_atMount_iff reached]
    exact and_iff_right else_met
  case told =>
    intro p else_met refused
    have foreign : ¬ p.Reads canonicalNames := fun reads =>
      refused ((supported_atMount_iff reached).2 ⟨else_met, reads⟩)
    rw [evaluate_atMount reached else_met, if_neg foreign]
  case respelled =>
    intro p q respelled p_met q_met
    have same : q.Reads canonicalNames ↔ p.Reads canonicalNames :=
      Path.reads_iff_of_respelled respelled (by decide)
    simp only [evaluate_atMount reached p_met, evaluate_atMount reached q_met, same]
  case step_up =>
    intro p climbs supported
    have kept : Path.dotDot ∈ Path.said p.bytes := List.mem_filter.2 ⟨climbs, by decide⟩
    rw [(reads_of supported).2] at kept
    exact absurd kept (by decide)
  case relative => exact fun p starts supported => starts (reads_of supported).1
  case other_names => exact fun p other supported => other (reads_of supported).2
  case cut_off =>
    intro p early other supported
    have table : ∀ bytes ∈ canonicalCgroupPath.bytes.inits, Path.said bytes = canonicalNames →
        bytes = canonicalCgroupPath.bytes := by decide
    have same := table p.bytes ((List.mem_inits _ _).2 early) (reads_of supported).2
    exact other (congrArg Path.mk same)
  case other_bytes =>
    intro p b mem strange no_dot supported
    exact (byte_mem_of_reads (reads_of supported) mem).elim strange no_dot
  case no_text =>
    intro p unread supported
    have ascii : (canonicalCgroupPath.bytes ++ Path.dot).all (·.toNat < 0x80) = true := by decide
    refine Path.text?_ne_none_of_ascii (fun b mem => ?_) unread
    have known := List.mem_append.2 (byte_mem_of_reads (reads_of supported) mem)
    exact of_decide_eq_true (List.all_eq_true.1 ascii b known)
  case extended =>
    intro rest supported
    have split : canonicalCgroupPath.bytes =
        (Path.ofString "/sys/fs").bytes ++ Path.slash :: (Path.ofString "cgroup").bytes := by decide
    have named := (reads_of supported).2
    rw [split, List.append_assoc, List.cons_append] at named
    exact (Path.said_extended_iff (by decide) (by decide)).1 named

/-- A spelling of the mount with all kinds of padding, and the same with a step down and up again.
-/
theorem mountTest_padded :
    let facts : PlatformFacts := ⟨.v, ⟨⟨5, 15, 0⟩, false, false⟩, none⟩
    let padded : Path := .ofString "//sys/./fs///cgroup/./"
    let winding : Path := .ofString "/sys/fs/../fs/cgroup"
    (facts.tier = .u ∨ facts.tier = .v) ∧ (facts.atMount padded).MeetsAllElse ∧
      (facts.atMount padded).Supported ∧ (facts.atMount winding).MeetsAllElse ∧
      evaluate (facts.atMount winding) = .unsupported .foreignCgroupPath := by
  intro facts padded winding
  have tier : facts.tier = .u ∨ facts.tier = .v := .inr rfl
  have test : MountTest facts := mountTest_byPieces facts tier
  have padded_met : (facts.atMount padded).MeetsAllElse := by decide
  have winding_met : (facts.atMount winding).MeetsAllElse := by decide
  refine ⟨tier, padded_met, (test.supported_iff padded padded_met).2 (by decide), winding_met, ?_⟩
  exact test.told winding winding_met (test.step_up winding (by decide))

/-- A dot counts for nothing behind a slash only. -/
example : evaluate ⟨.u, ⟨⟨5, 15, 0⟩, false, false⟩, some (.ofString "./sys/fs/cgroup")⟩ =
    .unsupported .foreignCgroupPath := by decide

end SocketAttribution
