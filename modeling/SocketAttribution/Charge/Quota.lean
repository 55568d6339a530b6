import SocketAttribution.Charge.Records

/-!
# Quotas

How many statistics entries there may be before charges are refused.

## Main definitions

* `Occupancy`: how many entries there are.
* `QuotaLimits`, `QuotaLimits.Admits`: the limits, and whether they leave room.
* `QuotaLimits.checked`: limits that keep a margin of a table free.

## Design notes

Room is looked for before an entry is made and not while it is, so several requests may find the
same room. The margin makes up for them: a tenth of the table, and more than `minReserved` entries.
-/

namespace SocketAttribution

/-- How many entries a statistics table has, in all and for one user. -/
structure Occupancy where
  total : UInt32
  perUid : UInt32
  deriving DecidableEq, Repr

/-- How many entries there may be in all and for one user. -/
structure QuotaLimits where
  perUid : UInt32
  total : UInt32
  deriving DecidableEq, Repr

/-- The number of entries that a margin must exceed. -/
def minReserved : UInt32 := 100

/-- Why limits are no good for a table. -/
inductive QuotaError where
  | perUidZero
  | perUidAboveTotal (perUid total : UInt32)
  | totalNotBelowCapacity (total capacity : UInt32)
  | marginBelowTenth (total capacity : UInt32)
  | marginTooSmall (total reserved : UInt32)
  deriving DecidableEq, Repr

/-- The wording of the error. -/
def QuotaError.message : QuotaError → String
  | .perUidZero => "per-uid limit must be greater than zero"
  | .perUidAboveTotal perUid total => s!"per-uid limit {perUid} exceeds total limit {total}"
  | .totalNotBelowCapacity total capacity =>
    s!"total limit {total} must be below map capacity {capacity}"
  | .marginBelowTenth total capacity =>
    s!"total limit {total} leaves less than 10% of {capacity} entries reserved"
  | .marginTooSmall total reserved =>
    s!"total limit {total} reserves only {reserved} entries, need more than {minReserved}"

namespace QuotaLimits

/-- The limits for a table of the usual capacity. -/
def default : QuotaLimits := ⟨500, statsCapacity / 10 * 9⟩

/-- The limits, if they keep at least a tenth and more than `minReserved` of the entries of a table
free. The margin is only taken once it is known to be there. -/
def checked (perUid total capacity : UInt32) : Except QuotaError QuotaLimits :=
  if perUid = 0 then .error .perUidZero
  else if total < perUid then .error (.perUidAboveTotal perUid total)
  else if capacity ≤ total then .error (.totalNotBelowCapacity total capacity)
  else if (capacity - total).toUInt64 * 10 < capacity.toUInt64 then
    .error (.marginBelowTenth total capacity)
  else if capacity - total ≤ minReserved then .error (.marginTooSmall total (capacity - total))
  else .ok ⟨perUid, total⟩

/-- Whether the limits leave room where there are so many entries: up to the limits there is. -/
def Admits (limits : QuotaLimits) (occupancy : Occupancy) : Prop :=
  occupancy.total ≤ limits.total ∧ occupancy.perUid ≤ limits.perUid

instance (limits : QuotaLimits) (occupancy : Occupancy) : Decidable (limits.Admits occupancy) :=
  inferInstanceAs (Decidable (_ ∧ _))

end QuotaLimits

end SocketAttribution
