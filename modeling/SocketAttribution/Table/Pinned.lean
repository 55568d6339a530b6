import SocketAttribution.Dialogue
import SocketAttribution.Table.Call
import SocketAttribution.Table.KernelMap

/-!
# Pinned tables

A map of the kernel, used as a table.

## Main definitions

* `MapError.ofLookup`, `nextKey`: how answers of the kernel are told before a table sees them.
* `PinnedHash.perform`: table calls on a hash map.
* `PinnedArray.perform`: table calls on an array, which is only read.

## Design notes

The kernel tells a missing key and the end of the keys by one error code, and the table by values:
no value, nothing to remove, and a walk that is complete.
-/

namespace SocketAttribution

/-- Work on a map of the kernel. -/
abbrev MapDialogue (α : Type) : Type := Dialogue MapCall MapCall.Answer α

/-- How the failure of a call is told. -/
def MapError.ofCall (name : String) (code : ErrorCode) : MapError := .call name (.os code)

/-- How the failure of a look at a key is told: a missing key has an error of its own. -/
def MapError.ofLookup (code : ErrorCode) : MapError :=
  if code = ErrorCode.noEntry then .keyNotFound else .ofCall "bpf_map_lookup_elem" code

/-- The key that a walk goes on with, if there is one. -/
def nextKey : Except ErrorCode Bytes → Except MapError (Option Bytes)
  | .ok key => .ok (some key)
  | .error code =>
    if code = ErrorCode.noEntry then .ok none
    else .error (.ofCall "bpf_map_get_next_key" code)

@[simp] theorem MapError.code_ofCall (name : String) (code : ErrorCode) :
    (ofCall name code).code = code := rfl

namespace PinnedHash

variable {K V : Type} [Wire K] [Wire V]

/-- More keys than any map of the kernel has. -/
def patience : Nat := UInt32.size

/-- What a look at a key found. -/
def found : Except MapError Bytes → Except TableError (Option V)
  | .ok value => .ok (some (Wire.decode value))
  | .error .keyNotFound => .ok none
  | .error e => .error (.ofMapError e)

/-- What came of putting a value at a key. -/
def written (outcome : Except MapError Unit) : Except TableError Unit :=
  outcome.mapError .ofMapError

/-- What came of removing a key. -/
def removed : Except MapError Unit → Except TableError Unit
  | .ok () => .ok ()
  | .error e => if e.code = ErrorCode.noEntry then .ok () else .error (.ofMapError e)

/-- A walk that stands behind a key, or at the start, and has met keys, given backwards. -/
def walk : Nat → Option Bytes → List K → MapDialogue (Walk K)
  | 0, _, met => .done (.complete met.reverse)
  | patience + 1, after, met =>
    .ask (.next after) fun answer =>
      match nextKey answer with
      | .ok (some key) => walk patience (some key) (Wire.decode key :: met)
      | .ok none => .done (.complete met.reverse)
      | .error e => .done ⟨met.reverse, some (.ofMapError e)⟩

/-- Table calls on a hash map. -/
def perform : (call : TableCall K V) → MapDialogue call.Answer
  | .get key =>
    .ask (.lookup (Wire.encode key)) fun answer => .done (found (answer.mapError .ofLookup))
  | .scan => walk patience none []
  | .upsert key value =>
    .ask (.update (Wire.encode key) (Wire.encode value)) fun answer =>
      .done (written (answer.mapError (.ofCall "bpf_map_update_elem")))
  | .delete key =>
    .ask (.delete (Wire.encode key)) fun answer =>
      .done (removed (answer.mapError (.ofCall "bpf_map_delete_elem")))

end PinnedHash

namespace PinnedArray

variable {V : Type} [Wire V]

/-- Table calls on an array of so many entries. An index at or past them holds nothing, and the
kernel is not asked. Nothing is written. -/
def perform (maxEntries : UInt32) : (call : TableCall UInt32 V) → MapDialogue call.Answer
  | .get key =>
    if maxEntries ≤ key then .done (.ok none)
    else
      .ask (.lookup (Wire.encode key)) fun
        | .ok value => .done (.ok (some (Wire.decode value)))
        | .error code => .done (.error (.ofMapError (.ofLookup code)))
  | .scan => .done (.complete ((List.range maxEntries.toNat).map UInt32.ofNat))
  | .upsert _ _ => .done (.error ⟨ErrorCode.notPermitted⟩)
  | .delete _ => .done (.error ⟨ErrorCode.notPermitted⟩)

end PinnedArray

end SocketAttribution
