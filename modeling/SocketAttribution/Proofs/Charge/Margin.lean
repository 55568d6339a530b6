import Mathlib.Algebra.Order.Ring.Int
import Mathlib.Tactic.SplitIfs
import SocketAttribution.Charge.Quota

/-!
# The margin of limits

Limits are checked in words of a machine, whose difference wraps below zero and whose product wraps
above the width. What the checks are to say is said in whole numbers. Both come to the same: the
difference is only taken where it is one, and the product of a word of 32 bits with ten has room in
64 bits. That nothing wraps is stated by carrying out the same checks on a machine that has no
result where an operation leaves its width.

## Main definitions

* `KeepsMargin`: what limits must keep of a table, in whole numbers.
* `QuotaLimits.checkedOn`: the checks on a machine with its own difference and product.
* `exactSub?`, `exactMul?`: a difference and a product that have no result where they leave their
  width.

## Main statements

* `QuotaLimits.checked_eq_ok_iff`: limits pass exactly if they keep the margin.
* `QuotaLimits.checkedOn_exact`: no operation of a check leaves its width.
* `KeepsMargin.safer`: smaller limits keep the margin of a larger table.
* `QuotaLimits.margin_exact_and_closed`: **all three in one**.
-/

namespace SocketAttribution

/-- The margin in whole numbers: limits above zero, of which the one for a user is within the one
for all, that leave a tenth of a table free and more than a hundred entries. -/
structure KeepsMargin (perUid total capacity : ℤ) : Prop where
  perUid_pos : 0 < perUid
  perUid_le_total : perUid ≤ total
  total_lt_capacity : total < capacity
  tenth : capacity ≤ 10 * (capacity - total)
  reserve : 100 < capacity - total

/-- **Smaller limits keep the margin of a larger table.** -/
theorem KeepsMargin.safer {perUid total capacity perUid' total' capacity' : ℤ}
    (keeps : KeepsMargin perUid total capacity) (pos : 0 < perUid') (within : perUid' ≤ total')
    (less : total' ≤ total) (larger : capacity ≤ capacity') :
    KeepsMargin perUid' total' capacity' := by
  obtain ⟨-, -, below, tenth, reserve⟩ := keeps
  -- Nine times the capacity covers ten times the limit, and both sides only move apart.
  have covered : 10 * total ≤ 9 * capacity := by omega
  exact ⟨pos, within, by omega, by omega, by omega⟩

/-! ## Arithmetic without wrapping -/

/-- The difference of two words, if it is one. -/
def exactSub? (a b : UInt32) : Option UInt32 :=
  if b.toNat ≤ a.toNat then some (UInt32.ofNat (a.toNat - b.toNat)) else none

/-- The product of two double words, if there is room for it. -/
def exactMul? (a b : UInt64) : Option UInt64 :=
  if a.toNat * b.toNat < 2 ^ 64 then some (UInt64.ofNat (a.toNat * b.toNat)) else none

theorem toNat_sub_of_lt {a b : UInt32} (h : b < a) : (a - b).toNat = a.toNat - b.toNat :=
  UInt32.toNat_sub_of_le a b (UInt32.le_of_lt h)

/-- Ten times a word has room in a double word. -/
theorem toNat_tenfold (a : UInt32) : (a.toUInt64 * 10).toNat = 10 * a.toNat := by
  have width : a.toNat < 2 ^ 32 := a.toNat_lt
  have ten : (10 : UInt64).toNat = 10 := rfl
  rw [UInt64.toNat_mul, UInt32.toNat_toUInt64, ten]
  omega

theorem exactSub?_of_lt {a b : UInt32} (h : b < a) : exactSub? a b = some (a - b) := by
  have le : b.toNat ≤ a.toNat := Nat.le_of_lt (UInt32.lt_iff_toNat_lt.1 h)
  rw [exactSub?, if_pos le, ← toNat_sub_of_lt h, UInt32.ofNat_toNat]

theorem exactMul?_tenfold (a : UInt32) : exactMul? a.toUInt64 10 = some (a.toUInt64 * 10) := by
  have ten : (10 : UInt64).toNat = 10 := rfl
  have product : a.toUInt64.toNat * (10 : UInt64).toNat = (a.toUInt64 * 10).toNat := by
    rw [toNat_tenfold, UInt32.toNat_toUInt64, ten, Nat.mul_comm]
  rw [exactMul?, product, if_pos (UInt64.toNat_lt _), UInt64.ofNat_toNat]

namespace QuotaLimits

/-! ## The checks on a machine -/

/-- The checks of limits on a machine that subtracts words and multiplies double words in its own
way. -/
def checkedOn {m : Type → Type} [Monad m] (sub : UInt32 → UInt32 → m UInt32)
    (mul : UInt64 → UInt64 → m UInt64) (perUid total capacity : UInt32) :
    m (Except QuotaError QuotaLimits) :=
  if perUid = 0 then pure (.error .perUidZero)
  else if total < perUid then pure (.error (.perUidAboveTotal perUid total))
  else if capacity ≤ total then pure (.error (.totalNotBelowCapacity total capacity))
  else do
    let reserved ← sub capacity total
    let tenfold ← mul reserved.toUInt64 10
    if tenfold < capacity.toUInt64 then pure (.error (.marginBelowTenth total capacity))
    else if reserved ≤ minReserved then pure (.error (.marginTooSmall total reserved))
    else pure (.ok ⟨perUid, total⟩)

variable {perUid total capacity : UInt32} {limits : QuotaLimits}

/-- On a machine whose words wrap these are the checks. -/
theorem checkedOn_wrapping :
    checkedOn (m := Id) (fun a b => pure (a - b)) (fun a b => pure (a * b)) perUid total capacity =
      checked perUid total capacity := rfl

/-- **No operation of a check leaves its width.** -/
theorem checkedOn_exact :
    checkedOn exactSub? exactMul? perUid total capacity = some (checked perUid total capacity) := by
  unfold checkedOn checked
  split_ifs with zero above full thin few
  · rfl
  · rfl
  · rfl
  all_goals
    rw [exactSub?_of_lt (UInt32.not_le.1 full)]
    show ((exactMul? (capacity - total).toUInt64 10).bind fun tenfold => _) = _
    rw [exactMul?_tenfold, Option.bind_some]
  · rw [if_pos thin]
    rfl
  · rw [if_neg thin, if_pos few]
    rfl
  · rw [if_neg thin, if_neg few]
    rfl

/-! ## What passes -/

/-- **Limits pass exactly if they keep the margin**, and are taken as they are. -/
theorem checked_eq_ok_iff : checked perUid total capacity = .ok limits ↔
    limits = ⟨perUid, total⟩ ∧ KeepsMargin perUid.toNat total.toNat capacity.toNat := by
  have refused (breaks : ¬ KeepsMargin perUid.toNat total.toNat capacity.toNat) :
      False ↔ limits = ⟨perUid, total⟩ ∧ KeepsMargin perUid.toNat total.toNat capacity.toNat :=
    iff_of_false id fun h => breaks h.2
  have hundred : minReserved.toNat = 100 := rfl
  unfold checked
  split_ifs with zero above full thin few
  · refine refused fun keeps => ?_
    have pos := keeps.perUid_pos
    rw [zero, UInt32.toNat_zero] at pos
    omega
  · refine refused fun keeps => ?_
    rw [UInt32.lt_iff_toNat_lt] at above
    have within := keeps.perUid_le_total
    omega
  · refine refused fun keeps => ?_
    rw [UInt32.le_iff_toNat_le] at full
    have below := keeps.total_lt_capacity
    omega
  all_goals
    rw [UInt32.not_le] at full
    have free := toNat_sub_of_lt full
    rw [UInt32.lt_iff_toNat_lt] at full
    rw [UInt64.lt_iff_toNat_lt, toNat_tenfold, UInt32.toNat_toUInt64] at thin
  · refine refused fun keeps => ?_
    have tenth := keeps.tenth
    omega
  · refine refused fun keeps => ?_
    rw [UInt32.le_iff_toNat_le] at few
    have reserve := keeps.reserve
    omega
  · rw [UInt32.le_iff_toNat_le] at few
    rw [UInt32.lt_iff_toNat_lt] at above
    have pos : 0 < perUid.toNat := by
      rw [← UInt32.toNat_inj, UInt32.toNat_zero] at zero
      omega
    have keeps : KeepsMargin perUid.toNat total.toNat capacity.toNat :=
      ⟨by omega, by omega, by omega, by omega, by omega⟩
    rw [Except.ok.injEq, and_iff_left keeps, eq_comm]

/-- **The check of a margin is exact and closed under safer choices.** Limits pass, and are taken as
they are, exactly if they keep the margin in whole numbers. The checks come to the same on a machine
that has no result where a difference or a product leaves its width. Whoever passes may lower the
limits or enlarge the table and passes again. -/
theorem margin_exact_and_closed (perUid total capacity : UInt32) :
    (∀ limits, checked perUid total capacity = .ok limits ↔
      limits = ⟨perUid, total⟩ ∧ KeepsMargin perUid.toNat total.toNat capacity.toNat) ∧
    (checkedOn (m := Id) (fun a b => pure (a - b)) (fun a b => pure (a * b))
        perUid total capacity = checked perUid total capacity ∧
      checkedOn exactSub? exactMul? perUid total capacity =
        some (checked perUid total capacity)) ∧
    ∀ limits perUid' total' capacity', checked perUid total capacity = .ok limits →
      0 < perUid' → perUid' ≤ total' → perUid' ≤ perUid → total' ≤ total → capacity ≤ capacity' →
        checked perUid' total' capacity' = .ok ⟨perUid', total'⟩ := by
  refine ⟨fun limits => checked_eq_ok_iff, ⟨checkedOn_wrapping, checkedOn_exact⟩, ?_⟩
  intro limits perUid' total' capacity' accepted pos within _ less larger
  obtain ⟨-, keeps⟩ := checked_eq_ok_iff.1 accepted
  refine checked_eq_ok_iff.2 ⟨rfl, keeps.safer ?_ ?_ ?_ ?_⟩
  · exact Int.ofNat_lt.2 (UInt32.lt_iff_toNat_lt.1 pos)
  · exact Int.ofNat_le.2 (UInt32.le_iff_toNat_le.1 within)
  · exact Int.ofNat_le.2 (UInt32.le_iff_toNat_le.1 less)
  · exact Int.ofNat_le.2 (UInt32.le_iff_toNat_le.1 larger)

/-- The largest table, with limits that leave a tenth of it free and not one entry more: in 32 bits
ten times the reserve would wrap. -/
theorem margin_exact_and_closed_largest :
    checked 500 3865470565 4294967295 = .ok ⟨500, 3865470565⟩ ∧
      checked 500 3865470566 4294967295 = .error (.marginBelowTenth 3865470566 4294967295) ∧
      (4294967295 - 3865470565 : UInt32) * 10 < 4294967295 ∧
      checked 1 3865470000 4294967295 = .ok ⟨1, 3865470000⟩ := by
  obtain ⟨passes, -, closed⟩ := margin_exact_and_closed 500 3865470565 4294967295
  have keeps : KeepsMargin (500 : UInt32).toNat (3865470565 : UInt32).toNat
      (4294967295 : UInt32).toNat := ⟨by decide, by decide, by decide, by decide, by decide⟩
  have accepted := (passes ⟨500, 3865470565⟩).2 ⟨rfl, keeps⟩
  exact ⟨accepted, by decide, by decide, closed _ 1 3865470000 4294967295 accepted (by decide)
    (by decide) (by decide) (by decide) (by decide)⟩

end QuotaLimits

end SocketAttribution
