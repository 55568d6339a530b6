import SocketAttribution.Table.Call
import SocketAttribution.Table.Entries

/-!
# Bounded tables

A table in memory that refuses new keys once it is full.

## Main definitions

* `Bounded`: entries and the number of them there may be.
* `Bounded.answer`: the answers to table calls.
-/

namespace SocketAttribution

/-- A table of at most `capacity` entries. -/
structure Bounded (K V : Type) where
  entries : Entries K V
  capacity : Nat

namespace Bounded

variable {K V : Type} [DecidableEq K]

/-- A table without entries. -/
def empty (capacity : Nat) : Bounded K V := ⟨.empty, capacity⟩

/-- The table with a value at a key, whether there is room or not; a new key goes to the end. -/
def set (t : Bounded K V) (key : K) (value : V) : Bounded K V :=
  { t with entries := t.entries.put (fun _ _ => true) key value }

/-- The table without a key. -/
def erase (t : Bounded K V) (key : K) : Bounded K V :=
  { t with entries := t.entries.erase key }

/-- Whether a value can be put at a key: a key that is there always takes one. -/
def HasRoomFor (t : Bounded K V) (key : K) : Prop :=
  t.entries.contains key = true ∨ t.entries.size < t.capacity

instance (t : Bounded K V) (key : K) : Decidable (t.HasRoomFor key) :=
  inferInstanceAs (Decidable (_ ∨ _))

/-- The answers to table calls. A full table refuses a new key. -/
def answer : (call : TableCall K V) → Bounded K V → call.Answer × Bounded K V
  | .get key, t => (.ok (t.entries.get? key), t)
  | .scan, t => (.complete t.entries.keys, t)
  | .upsert key value, t =>
    if t.HasRoomFor key then (.ok (), t.set key value)
    else (.error ⟨ErrorCode.listTooLong⟩, t)
  | .delete key, t => (.ok (), t.erase key)

end Bounded

end SocketAttribution
