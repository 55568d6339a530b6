import SocketAttribution.Startup.Call

/-!
# Opening the tables

## Main definitions

* `Opened`: an opened map and what the kernel said about it.
* `Tables`: the five opened maps.
* `openSlot`: opens the map of a slot and makes sure that it fits.
* `openTables`: opens all five.

## Design notes

The map of cookies is opened last. It is the only one that requests write to, so where it is open
all others are.
-/

namespace SocketAttribution

variable {Prog Dir Handle : Type}

/-- An opened map and what the kernel said about it. -/
structure Opened (Handle : Type) where
  handle : Handle
  info : MapInfo
  deriving DecidableEq, Repr

/-- The opened maps of the five slots. -/
structure Tables (Handle : Type) where
  statsA : Opened Handle
  statsB : Opened Handle
  configuration : Opened Handle
  permissions : Opened Handle
  cookieTags : Opened Handle
  deriving DecidableEq, Repr

namespace Tables

/-- The map of a slot. -/
def slot (tables : Tables Handle) : Slot → Opened Handle
  | .statsA => tables.statsA
  | .statsB => tables.statsB
  | .configuration => tables.configuration
  | .permissions => tables.permissions
  | .cookieTags => tables.cookieTags

end Tables

/-- Opening a map that may fail. -/
abbrev PinAttempt (Handle α : Type) : Type :=
  Attempt (PinCall Handle) PinCall.Answer MapError α

/-- The path of a pin, unless it holds a NUL byte and cannot be handed to the kernel. -/
def checkPin (path : Path) : Except MapError Unit :=
  match path.nulPosition? with
  | some position => .error (.invalidPin path position)
  | none => .ok ()

/-- Opens what is pinned at a path and makes sure that it fits a slot. -/
def openPinned (slot : Slot) (path : Path) : PinAttempt Handle (Opened Handle) := do
  Attempt.ofExcept (checkPin path)
  let handle ← Attempt.demand (.obtain path) fun answer =>
    answer.mapError (MapError.call "BPF_OBJ_GET")
  let info ← Attempt.demand (.describe handle) fun answer =>
    answer.mapError (MapError.call "bpf_obj_get_info_by_fd")
  Attempt.ofExcept (slot.check info)
  pure ⟨handle, info⟩

/-- Opens the map of a slot. -/
def openSlot (layout : Layout) (slot : Slot) :
    StartupAttempt Prog Dir Handle (Opened Handle) :=
  Attempt.mapError (InitError.maps slot.pinName) <|
    Attempt.through StartupCall.pin (fun _ answer => answer) (openPinned slot (layout.mapPath slot))

/-- Opens the maps of all slots, up to the first that fails. -/
def openTables (layout : Layout) : StartupAttempt Prog Dir Handle (Tables Handle) := do
  let statsA ← openSlot layout .statsA
  let statsB ← openSlot layout .statsB
  let configuration ← openSlot layout .configuration
  let permissions ← openSlot layout .permissions
  let cookieTags ← openSlot layout .cookieTags
  Attempt.note .startup .info s!"maps opened from {layout.pinRoot.text}"
  pure ⟨statsA, statsB, configuration, permissions, cookieTags⟩

end SocketAttribution
