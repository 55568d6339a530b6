import SocketAttribution.Hook.Attachment
import SocketAttribution.Startup.Error

/-!
# Calls of startup

The vocabulary of startup: looking for the loader's marker, opening the directory that hooks attach
to, working with a program host, and opening pinned maps.

## Main definitions

* `StartupCall`, `StartupCall.Answer`: the calls.
* `StartupAttempt`: work in this vocabulary that may fail.
-/

namespace SocketAttribution

/-- What is seen of the loader's marker at one look, and how long the wait has lasted. -/
structure Sighting where
  seen : Bool
  elapsed : Duration
  deriving DecidableEq, Repr

/-- A call about a pinned map. -/
inductive PinCall (Handle : Type) where
  /-- Opens what is pinned at a path. -/
  | obtain (path : Path)
  /-- Asks what an opened map is. -/
  | describe (handle : Handle)
  deriving DecidableEq, Repr

/-- The answers to calls about pinned maps. -/
abbrev PinCall.Answer {Handle : Type} : PinCall Handle → Type
  | .obtain _ => Except SystemError Handle
  | .describe _ => Except SystemError MapInfo

/-- A call of startup. Programs, directories and maps are whatever the surroundings hand out. -/
inductive StartupCall (Prog Dir Handle : Type) where
  /-- Looks for the loader's marker. -/
  | poll (marker : Path)
  | openDirectory (path : Path)
  | host (call : HostCall Prog Dir)
  | pin (call : PinCall Handle)
  deriving DecidableEq, Repr

/-- The answers to calls of startup. -/
abbrev StartupCall.Answer {Prog Dir Handle : Type} : StartupCall Prog Dir Handle → Type
  | .poll _ => Sighting
  | .openDirectory _ => Except SystemError Dir
  | .host call => call.Answer
  | .pin call => call.Answer

/-- Work of startup that may fail. -/
abbrev StartupAttempt (Prog Dir Handle α : Type) : Type :=
  Attempt (StartupCall Prog Dir Handle) StartupCall.Answer InitError α

end SocketAttribution
