import SocketAttribution.Dialogue
import SocketAttribution.Platform.Facts
import SocketAttribution.Platform.Release
import SocketAttribution.SystemError
import SocketAttribution.Text.Pieces
import SocketAttribution.Text.Utf8

/-!
# The running kernel

What the system says about itself, and the kernel facts that follow.

## Main definitions

* `SystemCall`: the questions put to the running system.
* `SystemName`: what a system says about itself.
* `SystemName.reportedVersion`: the version among it.
* `isMachine64`: whether a machine name stands for a 64-bit kernel.
* `runningFacts`: the facts of the running kernel.

## Design notes

A system of the Debian family names its true version in the text of its build and not in its
release. The version is read from the text behind the first mark of that family, and from the
release if there is none.
-/

namespace SocketAttribution

/-- What a system says about itself, in bytes that need not be those of a text. -/
structure SystemName where
  release : List UInt8
  version : List UInt8
  machine : List UInt8
  deriving DecidableEq, Repr

/-- The questions put to the running system. -/
inductive SystemCall where
  /-- How the system names itself. -/
  | name
  /-- The user who runs the agent. -/
  | user
  deriving DecidableEq, Repr

/-- What the questions are answered with. -/
abbrev SystemCall.Answer : SystemCall → Type
  | .name => Except SystemError SystemName
  | .user => UInt32

namespace SystemName

/-- How many bytes there are room for in each thing that a system says. -/
def room : Nat := 64

/-- What is left of a text that a system says about itself: as many of its bytes as there is room
for, up to the first NUL. -/
def said (text : String) : List UInt8 :=
  ((Text.Utf8.encode text.toList).take room).takeWhile (· ≠ 0)

/-- A system that says these texts about itself. -/
def ofTexts (release version machine : String) : SystemName :=
  ⟨said release, said version, said machine⟩

/-- What stands behind the first occurrence of a mark. -/
def behindFirst (mark : List Char) : List Char → Option (List Char)
  | [] => none
  | c :: rest =>
    if mark.isPrefixOf (c :: rest) then some ((c :: rest).drop mark.length)
    else behindFirst mark rest

/-- The text that tells a system's version. -/
def versionText (name : SystemName) : Except Text.Utf8.Fault (List Char) := do
  match behindFirst "Debian ".toList (← Text.Utf8.decode name.version) with
  | some text => pure text
  | none => Text.Utf8.decode name.release

/-- The version that a text tells: its first three pieces between characters that are no digits, if
all are there and fit. -/
def versionIn? (text : List Char) : Option ReportedVersion :=
  match Text.pieces (fun c => !Text.isDecimalDigit c) text with
  | major :: minor :: patch :: _ =>
    match Text.readUnsigned 10 UInt8.size major, Text.readUnsigned 10 UInt8.size minor,
      Text.readUnsigned 10 UInt16.size patch with
    | .ok major, .ok minor, .ok patch =>
      some ⟨UInt8.ofNat major, UInt8.ofNat minor, UInt16.ofNat patch⟩
    | _, _, _ => none
  | _ => none

end SystemName

/-- Why the facts of the running kernel are not known. -/
inductive RunningError where
  /-- The system does not tell its version. -/
  | unreadable (source : SystemError)
  /-- The system's version is no text. -/
  | unwritten (fault : Text.Utf8.Fault)
  /-- The system's version is none. -/
  | unparsable
  /-- The version does not read back. -/
  | release (fault : ReleaseError)
  /-- The system does not tell its machine. -/
  | noMachine (source : SystemError)
  deriving DecidableEq, Repr

/-- The wording of the error and of what lies behind it. -/
def RunningError.chain : RunningError → List String
  | .unreadable source =>
    ["failed to read running kernel version", "failed to read kernel version", source.message]
  | .unwritten fault =>
    ["failed to read running kernel version", "kernel version string is not valid UTF-8",
      fault.message]
  | .unparsable => ["failed to read running kernel version", "failed to parse kernel version"]
  | .release fault => fault.chain
  | .noMachine source => ["uname failed", source.message]

/-- The version that a system's name reports. -/
def SystemName.reportedVersion (name : SystemName) : Except RunningError ReportedVersion :=
  match name.versionText with
  | .error fault => .error (.unwritten fault)
  | .ok text =>
    match versionIn? text with
    | some reported => .ok reported
    | none => .error .unparsable

/-! ## Machines -/

/-- The names of 64-bit machines that stand for themselves. -/
def machines64 : List String :=
  ["aarch64", "x86_64", "riscv64", "ppc64", "ppc64le", "s390x", "loongarch64"]

/-- Whether a machine name stands for a 64-bit kernel. Every name that begins with `mips64` does,
whatever byte order or variant follows. -/
def isMachine64 (machine : String) : Bool :=
  machines64.contains machine || "mips64".toList.isPrefixOf machine.toList

/-- Whether a system names a 64-bit machine. -/
def SystemName.is64 (name : SystemName) : Bool :=
  isMachine64 (String.ofList (Text.Utf8.decodeLossy name.machine))

/-! ## Facts -/

/-- The facts of the running kernel. The system is asked twice, for its version and then for its
machine. The agent itself is a 64-bit program. -/
def runningFacts : Attempt SystemCall SystemCall.Answer RunningError KernelFacts := do
  let named ← Attempt.demand .name fun answer => answer.mapError RunningError.unreadable
  let reported ← Attempt.ofExcept named.reportedVersion
  let version ← Attempt.ofExcept (reported.version.mapError RunningError.release)
  let named ← Attempt.demand .name fun answer => answer.mapError RunningError.noMachine
  pure ⟨version, !named.is64, false⟩

end SocketAttribution
