import SocketAttribution.Hook.Error
import SocketAttribution.Platform.Admission
import SocketAttribution.Table.Slot
import SocketAttribution.Text.Duration

/-!
# Failures of startup

## Main definitions

* `ConfigurationFault`: what the surroundings of the agent lack.
* `InitError`: why startup failed.
* `InitError.isFatal`: whether the process must stop at once.
-/

namespace SocketAttribution

/-- What the surroundings of the agent lack. -/
inductive ConfigurationFault where
  /-- The loader's marker was not there in time. -/
  | loaderMissing (waited : Duration) (marker : Path)
  /-- No directory to attach to is named. -/
  | noCgroupPath
  /-- The directory to attach to cannot be opened. -/
  | cgroupUnopenable (path : Path) (source : SystemError)
  /-- A fault in words of its own. -/
  | stated (text : String)
  deriving DecidableEq, Repr

/-- The wording of the fault. -/
def ConfigurationFault.message : ConfigurationFault → String
  | .loaderMissing waited marker =>
    s!"loader did not finish within {waited.text} ({marker.text} missing)"
  | .noCgroupPath => "no cgroup path configured"
  | .cgroupUnopenable path source =>
    s!"failed to open cgroup directory {path.text}: {source.message}"
  | .stated text => text

/-- Why startup failed. -/
inductive InitError where
  | configuration (fault : ConfigurationFault)
  /-- So many looks for a marker were taken that no more are; this says nothing about the loader. -/
  | abandoned (marker : Path)
  | platformUnsupported (reason : String)
  /-- A step of the hook plan failed. -/
  | hook (source : HookError)
  /-- The map of a slot could not be opened. -/
  | maps (name : String) (source : MapError)
  deriving DecidableEq, Repr

namespace InitError

/-- The wording of the error. -/
def message : InitError → String
  | .configuration fault => s!"configuration error: {fault.message}"
  | .abandoned marker => s!"gave up looking for {marker.text}"
  | .platformUnsupported reason => reason
  | .hook source => source.message
  | .maps name source => s!"failed to open map {name}: {source.message}"

/-- The wording of the error and of what lies behind it. -/
def chain : InitError → List String
  | .hook source => source.chain
  | e@(.maps _ source) => e.message :: source.chain
  | e => [e.message]

/-- Whether the process must stop at once: only where the kernel contradicts itself. -/
def isFatal : InitError → Bool
  | .hook source => source.isInconsistent
  | _ => false

end InitError

end SocketAttribution
