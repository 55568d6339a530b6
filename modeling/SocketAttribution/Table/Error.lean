import SocketAttribution.Path.Basic
import SocketAttribution.SystemError

/-!
# Errors of tables

## Main definitions

* `MapError`: what can go wrong with a pinned map, in all detail.
* `TableError`: the error code that remains of it for those who use a table.
-/

namespace SocketAttribution

/-- What can go wrong with a pinned map. -/
inductive MapError where
  /-- The map is of a type that is not asked for. -/
  | invalidType (type : UInt32)
  | invalidName (name : String)
  | invalidKeySize (size expected : UInt32)
  | invalidValueSize (size expected : UInt32)
  | outOfBounds (index maxEntries : UInt32)
  | keyNotFound
  | elementNotFound
  | programNotLoaded
  | programIdsUnsupported
  | unsupportedType (type : UInt32)
  /-- The path of the pin holds a NUL byte at the position. -/
  | invalidPin (path : Path) (position : Nat)
  /-- An input/output error that speaks for itself. -/
  | io (source : SystemError)
  /-- A call of the kernel failed. -/
  | call (name : String) (source : SystemError)
  deriving DecidableEq, Repr

namespace MapError

/-- The wording of the error. -/
def message : MapError → String
  | .invalidType type => s!"invalid map type {type}"
  | .invalidName name => s!"invalid map name `{name}`"
  | .invalidKeySize size expected => s!"invalid key size {size}, expected {expected}"
  | .invalidValueSize size expected => s!"invalid value size {size}, expected {expected}"
  | .outOfBounds index maxEntries =>
    s!"the index is {index} but `max_entries` is {maxEntries}"
  | .keyNotFound => "key not found"
  | .elementNotFound => "element not found"
  | .programNotLoaded => "the program is not loaded"
  | .programIdsUnsupported => "program ids are not supported by the current kernel"
  | .unsupportedType type => s!"Unsupported map type found {type}"
  | .invalidPin _ _ => "map `None` requested pinning. pinning failed"
  | .io source => source.message
  | .call name _ => s!"`{name}` failed"

/-- The wordings of what lies behind the error. -/
def causes : MapError → List String
  | .invalidPin path position =>
    [s!"invalid pin path `{path.text}`",
      s!"nul byte found in provided data at position: {position}"]
  | .call _ source => [source.message]
  | _ => []

/-- The wording of the error and of what lies behind it. -/
def chain (e : MapError) : List String := e.message :: e.causes

/-- The code that remains of the error. A failed call of the kernel keeps its code; a missing key
and an index out of bounds have codes of their own; all else is an input/output error. -/
def code : MapError → ErrorCode
  | .keyNotFound => ErrorCode.noEntry
  | .outOfBounds _ _ => ErrorCode.listTooLong
  | .call _ source => source.code
  | _ => ErrorCode.inputOutput

end MapError

/-- The failure of a table operation. -/
structure TableError where
  code : ErrorCode
  deriving DecidableEq, Repr

namespace TableError

/-- The wording of the error. -/
def message (e : TableError) : String := s!"table operation failed: {e.code.message}"

/-- What remains of a map's error for those who use it as a table. -/
def ofMapError (e : MapError) : TableError := ⟨e.code⟩

end TableError

end SocketAttribution
