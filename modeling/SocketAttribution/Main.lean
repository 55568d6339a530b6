import SocketAttribution.CommandLine.Run

/-!
# The agent as a process

Runs a command line on the system it is started on.

## Design notes

Files and the system's own account of itself are read as they are. Pinned programs and maps are out
of reach of this process, as they are on a kernel that has none: opening one fails as a call that
is not implemented.
-/

namespace SocketAttribution.Agent

open CommandLine

/-- The error of a facility that the process cannot reach. -/
def unreachable : SystemError := .os ErrorCode.notImplemented

/-- Looks for a marker; the wait began at `start`, in milliseconds. -/
def look (start : Nat) (marker : Path) : IO Sighting := do
  let now ← IO.monoMsNow
  let seen ← do
    match marker.text? with
    | some name => ((← IO.currentDir) / name).pathExists
    | none => pure false
  pure ⟨seen, .ofMillis (now - start)⟩

/-- Opens a directory, which is known by its path from then on. -/
def openDirectory (path : Path) : IO (Except SystemError Path) := do
  if path.nulPosition?.isSome then return .error .nulInName
  let some name := path.text? | return .error (.os ErrorCode.noEntry)
  let place := (← IO.currentDir) / name
  if ← place.isDir then return .ok path
  if ← place.pathExists then return .error (.os ErrorCode.notDirectory)
  return .error (.os ErrorCode.noEntry)

/-- What the system says in a file about itself, without blanks at the ends, or nothing. -/
def readShown (file : String) : IO String := do
  try
    return String.ofList (Text.trim (← IO.FS.readFile file).toList)
  catch _ => return ""

/-- How the system names itself. -/
def systemName : IO (Except SystemError SystemName) := do
  let release ← readShown "/proc/sys/kernel/osrelease"
  let version ← readShown "/proc/sys/kernel/version"
  let machine ← readShown "/proc/sys/kernel/arch"
  if release.isEmpty then return .error unreachable
  return .ok (.ofTexts release version machine)

/-- The user who runs the process. -/
def user : IO UInt32 := do
  let status ← readShown "/proc/self/status"
  let line := (status.splitOn "\n").find? fun line => "Uid:".toList.isPrefixOf line.toList
  let digits := ((line.getD "").toList.drop 4).dropWhile Text.isBlank
  match Text.readUnsigned 10 UInt32.size (digits.takeWhile Text.isDecimalDigit) with
  | .ok value => return UInt32.ofNat value
  | .error _ => return 0

/-- The answers to calls of a command. Between two looks for a marker the process sleeps. -/
def answer (start : Nat) : (call : AgentCall Path Path Empty) → IO call.Answer
  | .startup (.poll marker) => do
    let sighting ← look start marker
    unless sighting.seen do IO.sleep 100
    return sighting
  | .startup (.openDirectory path) => openDirectory path
  | .startup (.host (.retrieve path)) =>
    return .error (if path.nulPosition?.isSome then .os ErrorCode.invalidArgument else unreachable)
  | .startup (.host (.attach _ _ _)) => return .error unreachable
  | .startup (.host (.query _ _)) => return .error unreachable
  | .startup (.pin (.obtain _)) => return .error unreachable
  | .startup (.pin (.describe handle)) => nomatch handle
  | .tagger tables _ => nomatch tables.statsA.handle
  | .system .name => systemName
  | .system .user => user

/-- Carries a command out; its log lines are shown as they come. -/
def carryOut {α : Type} (filter : LogFilter) (start : Nat) :
    Dialogue (AgentCall Path Path Empty) AgentCall.Answer α → IO α
  | .done value => return value
  | .log line rest => do
    if filter.Admits line then IO.eprint (shownLine line)
    carryOut filter start rest
  | .ask call resume => do carryOut filter start (resume (← answer start call))

end SocketAttribution.Agent

open SocketAttribution CommandLine in
/-- The command line of the agent. -/
def main (args : List String) : IO UInt32 := do
  let (filter, complaints) := LogFilter.ofSetting (← IO.getEnv "RUST_LOG")
  for complaint in complaints do IO.eprint (warning complaint)
  let left ← Agent.carryOut filter (← IO.monoMsNow) (run args)
  IO.eprint (shownText left.complaint)
  IO.print left.printed
  match left.ending with
  | .exited code => return code.toUInt32
  | .aborted => return 134
