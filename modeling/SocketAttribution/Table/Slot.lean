import SocketAttribution.Charge.Records
import SocketAttribution.Hook.Program
import SocketAttribution.Table.Error

/-!
# Slots

The five places that pinned maps are opened into. Each has a pin name, a kind of map and sizes of
keys and values; a map that is of another kind or has other sizes is refused.

## Main definitions

* `MapInfo`: what the kernel says about a map.
* `Slot`: the five places.
* `Slot.check`: whether a map fits a slot.
-/

namespace SocketAttribution

/-- What the kernel says about a map. -/
structure MapInfo where
  type : UInt32
  keySize : UInt32
  valueSize : UInt32
  maxEntries : UInt32
  deriving DecidableEq, Repr

/-- The kinds of map that can be opened at all. -/
inductive MapKind where
  | hash
  | array
  /-- A hash map that drops the entries least recently used. -/
  | lruHash
  deriving DecidableEq, Repr

/-- The kind behind a type number of the kernel. -/
def MapKind.ofType? (type : UInt32) : Option MapKind :=
  if type = 1 then some .hash else if type = 2 then some .array
  else if type = 9 then some .lruHash else none

/-- The number that stands for a type in errors: types newer than the last known one are told as
the first unknown one. -/
def reportedType (type : UInt32) : UInt32 := if 34 < type then 34 else type

/-- A place that a pinned map is opened into. -/
inductive Slot where
  | statsA
  | statsB
  | configuration
  | permissions
  | cookieTags
  deriving DecidableEq, Repr

namespace Slot

/-- The slot of a statistics table. -/
def ofView : CounterView → Slot
  | .a => .statsA
  | .b => .statsB

/-- The name under which the loader pins the map. -/
def pinName : Slot → String
  | .statsA => "map_stats_map_A"
  | .statsB => "map_stats_map_B"
  | .configuration => "map_configuration_map"
  | .permissions => "map_uid_permission_map"
  | .cookieTags => "map_cookie_tag_map"

/-- Whether a kind of map can serve the slot. -/
def Serves (slot : Slot) (kind : MapKind) : Prop :=
  match slot with
  | .configuration => kind = .array
  | _ => kind = .hash ∨ kind = .lruHash

instance (slot : Slot) (kind : MapKind) : Decidable (slot.Serves kind) := by
  unfold Serves
  cases slot <;> infer_instance

/-- The size of the keys. -/
def keySize : Slot → UInt32
  | .statsA | .statsB => 16
  | .configuration | .permissions => 4
  | .cookieTags => 8

/-- The size of the values. -/
def valueSize : Slot → UInt32
  | .statsA | .statsB => 32
  | .configuration => 4
  | .permissions => 1
  | .cookieTags => 8

/-- All slots, in the order in which they are opened. -/
def all : List Slot := [.statsA, .statsB, .configuration, .permissions, .cookieTags]

/-- The slot of a pin name. -/
def ofPinName? (name : String) : Option Slot := all.find? fun slot => slot.pinName == name

/-- A map as the loader makes it for the slot. -/
def loaderInfo (slot : Slot) : MapInfo :=
  match slot with
  | .configuration => ⟨2, slot.keySize, slot.valueSize, 2⟩
  | _ => ⟨1, slot.keySize, slot.valueSize, statsCapacity⟩

/-- Whether a map fits the slot: its type is looked at first, then its keys, then its values. -/
def check (slot : Slot) (info : MapInfo) : Except MapError Unit :=
  match MapKind.ofType? info.type with
  | none => .error (.invalidType (reportedType info.type))
  | some kind =>
    if ¬ slot.Serves kind then .error (.invalidType info.type)
    else if info.keySize ≠ slot.keySize then .error (.invalidKeySize slot.keySize info.keySize)
    else if info.valueSize ≠ slot.valueSize then
      .error (.invalidValueSize slot.valueSize info.valueSize)
    else .ok ()

end Slot

/-- The path at which the map of a slot is pinned. -/
def Layout.mapPath (layout : Layout) (slot : Slot) : Path := layout.pinRoot.join slot.pinName

end SocketAttribution
