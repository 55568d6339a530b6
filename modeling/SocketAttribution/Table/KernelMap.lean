import SocketAttribution.Table.Entries
import SocketAttribution.Table.Slot
import SocketAttribution.Table.Wire

/-!
# Maps of the kernel

The calls by which a process works on a map of the kernel, and a model of such a map.

## Main definitions

* `MapCall`, `MapCall.Answer`: the calls.
* `KernelMap`: a map, its entries in the order of the bytes of their keys.
* `MapFaults`: calls of a map that are made to fail.
* `KernelMap.answer`: what a map answers.
-/

namespace SocketAttribution

/-- A call on a map of the kernel. -/
inductive MapCall where
  | lookup (key : Bytes)
  | update (key value : Bytes)
  | delete (key : Bytes)
  /-- The key that follows another, or the first one. -/
  | next (after : Option Bytes)
  deriving DecidableEq, Repr

/-- The answers to calls on a map. A key that is missing, and the end of the keys, are told by the
code `ErrorCode.noEntry`. -/
abbrev MapCall.Answer : MapCall → Type
  | .lookup _ => Except ErrorCode Bytes
  | .update _ _ => Except ErrorCode Unit
  | .delete _ => Except ErrorCode Unit
  | .next _ => Except ErrorCode Bytes

/-- Whether bytes come before others, by the first that differs; a beginning comes first. -/
def bytesBefore : Bytes → Bytes → Bool
  | _, [] => false
  | [], _ :: _ => true
  | a :: as, b :: bs => if a = b then bytesBefore as bs else a < b

/-- A map of the kernel. -/
structure KernelMap where
  info : MapInfo
  entries : Entries Bytes Bytes

/-- Calls of a map that fail, each with its code. -/
structure MapFaults where
  get : Option ErrorCode
  info : Option ErrorCode
  lookup : Option ErrorCode
  update : Option ErrorCode
  delete : Option ErrorCode
  /-- The call for a next key fails once so many keys were given. -/
  next : Option (Nat × ErrorCode)
  deriving DecidableEq, Repr

/-- No call fails. -/
def MapFaults.none : MapFaults := ⟨.none, .none, .none, .none, .none, .none⟩

namespace KernelMap

/-- The number of the type of maps that are indexed by number. -/
def arrayType : UInt32 := 2

/-- The map with a value at a key; a new key goes where its bytes belong. -/
def set (m : KernelMap) (key value : Bytes) : KernelMap :=
  { m with entries := m.entries.put bytesBefore key value }

/-- Whether the map is indexed by number. -/
def isArray (m : KernelMap) : Bool := m.info.type == arrayType

/-- The value at a key. An array has one at every index, zero until it is written. -/
def lookup (m : KernelMap) (key : Bytes) : Except ErrorCode Bytes :=
  match m.entries.get? key with
  | some value => .ok value
  | none =>
    if m.isArray ∧ ofLittleEndian 4 key < m.info.maxEntries.toNat then
      .ok (List.replicate m.info.valueSize.toNat 0)
    else .error ErrorCode.noEntry

/-- The map with a value at a key, if there is room for it. -/
def update (m : KernelMap) (key value : Bytes) : Except ErrorCode KernelMap :=
  if m.entries.contains key then .ok (m.set key value)
  else if m.isArray then
    if ofLittleEndian 4 key < m.info.maxEntries.toNat then .ok (m.set key value)
    else .error ErrorCode.listTooLong
  else if m.entries.size < m.info.maxEntries.toNat then .ok (m.set key value)
  else .error ErrorCode.listTooLong

/-- The map without a key. Nothing is removed from an array. -/
def delete (m : KernelMap) (key : Bytes) : Except ErrorCode KernelMap :=
  if m.isArray then .error ErrorCode.invalidArgument
  else if m.entries.contains key then .ok { m with entries := m.entries.erase key }
  else .error ErrorCode.noEntry

/-- The keys behind a key of a list; all of them, if the key is not there. -/
def keysBehind (keys : List Bytes) (key : Bytes) : List Bytes :=
  match keys.dropWhile (· ≠ key) with
  | [] => keys
  | _ :: rest => rest

/-- The keys that a walk has before it when it stands at a key, or at the start. -/
def keysAhead (m : KernelMap) : Option Bytes → List Bytes
  | none => m.entries.keys
  | some key => keysBehind m.entries.keys key

/-- The key that follows another, or the first one. -/
def next (m : KernelMap) (after : Option Bytes) : Except ErrorCode Bytes :=
  match m.keysAhead after with
  | [] => .error ErrorCode.noEntry
  | key :: _ => .ok key

/-- The map and the outcome of a change of it. -/
def changed (m : KernelMap) : Except ErrorCode KernelMap → Except ErrorCode Unit × KernelMap
  | .ok m' => (.ok (), m')
  | .error code => (.error code, m)

/-- An answer, unless the call is made to fail. -/
def orFault {α : Type} (fault : Option ErrorCode) (answer : Except ErrorCode α) :
    Except ErrorCode α :=
  match fault with
  | some code => .error code
  | none => answer

/-- The code with which a walk fails that has the given keys before it. -/
def walkFault (m : KernelMap) (faults : MapFaults) (after : Option Bytes) : Option ErrorCode :=
  match faults.next with
  | some (given, code) =>
    if (m.keysAhead after).length + given = m.entries.size then some code else none
  | none => none

/-- What a map answers. -/
def answer (faults : MapFaults) : (call : MapCall) → KernelMap → call.Answer × KernelMap
  | .lookup key, m => (orFault faults.lookup (m.lookup key), m)
  | .update key value, m => m.changed (orFault faults.update (m.update key value))
  | .delete key, m => m.changed (orFault faults.delete (m.delete key))
  | .next after, m => (orFault (m.walkFault faults after) (m.next after), m)

end KernelMap

end SocketAttribution
