import SocketAttribution.Charge.Call
import SocketAttribution.Charge.Quota

/-!
# Occupancy of the live table

Which statistics table is live, and how full it is.

## Main definitions

* `currentView`: the live table, read afresh each time, because others may switch it at any time.
* `Occupancy.ofKeys`: the counts of a list of keys.
* `readOccupancy`: the live table and its counts.
-/

namespace SocketAttribution

/-- The view that the selector cell selects. -/
def selectedView : Except TableError (Option UInt32) → Except TagError CounterView
  | .ok (some value) =>
    match CounterView.ofSelector? value with
    | some view => .ok view
    | none => .error (.unknownConfiguration value)
  | .ok none => .error (.table ⟨ErrorCode.noEntry⟩)
  | .error e => .error (.table e)

/-- The live table. -/
def currentView : TagAttempt CounterView :=
  Attempt.demand (.configuration (.get selectorKey)) selectedView

/-- The number of keys, and of those of one user. -/
def Occupancy.ofKeys (uid : UInt32) (keys : List StatsKey) : Occupancy :=
  ⟨UInt32.ofNat keys.length, UInt32.ofNat (keys.countP (·.uid = uid))⟩

section Counts

variable {keys : List StatsKey} (uid : UInt32)

/-- Fewer keys than that are counted right. -/
theorem Occupancy.total_ofKeys (countable : keys.length < UInt32.size) :
    (ofKeys uid keys).total.toNat = keys.length :=
  UInt32.toNat_ofNat_of_lt' countable

theorem Occupancy.perUid_ofKeys (countable : keys.length < UInt32.size) :
    (ofKeys uid keys).perUid.toNat = keys.countP (·.uid = uid) :=
  UInt32.toNat_ofNat_of_lt' (Nat.lt_of_le_of_lt List.countP_le_length countable)

end Counts

/-- The occupancy that a walk found; a walk that was cut short found none. -/
def occupancyOfWalk (uid : UInt32) (walk : Walk StatsKey) : Except TagError Occupancy :=
  match walk.keys with
  | .ok keys => .ok (.ofKeys uid keys)
  | .error e => .error (.table e)

/-- The live table and its occupancy for a user. -/
def readOccupancy (uid : UInt32) : TagAttempt (CounterView × Occupancy) := do
  let view ← currentView
  let occupancy ← Attempt.demand (.stats view .scan) (occupancyOfWalk uid)
  pure (view, occupancy)

end SocketAttribution
