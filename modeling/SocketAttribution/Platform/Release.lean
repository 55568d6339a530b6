import SocketAttribution.Platform.Version
import SocketAttribution.Text.Blank

/-!
# Kernel releases

A kernel names its release by its version and whatever its maker adds, as in
`5.10.198-android12-9`.

## Main definitions

* `Version.ofRelease`: the version that a release begins with.
* `ReleaseError`: why a text is no release.
* `ReportedVersion`: a version in the narrower widths in which a system reports its own.

## Design notes

The text between two points is a component, and there are at most three: the third keeps all points
that follow. Of each component the digits in front count and the rest does not. The first two need
a digit; a third without one is zero.
-/

namespace SocketAttribution

/-- Why a text is no release. -/
inductive ReleaseError where
  /-- The first or the second component has no digit in front. -/
  | invalid (release : String)
  /-- A component is no number of 32 bits. -/
  | outOfRange (digits : String) (fault : Text.NumeralError)
  deriving DecidableEq, Repr

namespace ReleaseError

/-- The wording of the error. -/
def message : ReleaseError → String
  | .invalid release => s!"invalid kernel release '{release}'"
  | .outOfRange digits _ => s!"kernel version component '{digits}' out of range"

/-- The wording of the error and of what lies behind it. -/
def chain : ReleaseError → List String
  | e@(.invalid _) => [e.message]
  | e@(.outOfRange _ fault) => [e.message, fault.message]

end ReleaseError

namespace Release

/-- What stands before and behind the first point; behind it is nothing if there is no point. -/
def splitAtPoint : List Char → List Char × Option (List Char)
  | [] => ([], none)
  | c :: rest =>
    if c = '.' then ([], some rest)
    else ((c :: (splitAtPoint rest).1), (splitAtPoint rest).2)

/-- The text of a component that may be missing, and what follows it. -/
def nextComponent : Option (List Char) → List Char × Option (List Char)
  | none => ([], none)
  | some rest => splitAtPoint rest

/-- The digits in front of a component. -/
def leadingDigits (component : List Char) : List Char := component.takeWhile Text.isDecimalDigit

/-- The number in front of a component; without a digit it is what `missing` says. -/
def readComponent (missing : Except ReleaseError UInt32) (component : List Char) :
    Except ReleaseError UInt32 :=
  match leadingDigits component with
  | [] => missing
  | digits =>
    match Text.readUnsigned 10 UInt32.size digits with
    | .ok value => .ok (UInt32.ofNat value)
    | .error fault => .error (.outOfRange (String.ofList digits) fault)

end Release

open Release in
/-- The version in front of a release; blanks at the ends do not count. -/
def Version.ofRelease (release : String) : Except ReleaseError Version := do
  let (first, rest) := splitAtPoint (Text.trim release.toList)
  let (second, third) := nextComponent rest
  let major ← readComponent (.error (.invalid release)) first
  let minor ← readComponent (.error (.invalid release)) second
  let sub ← readComponent (.ok 0) (third.getD [])
  pure ⟨major, minor, sub⟩

/-- A version as a system reports its own. -/
structure ReportedVersion where
  major : UInt8
  minor : UInt8
  patch : UInt16
  deriving DecidableEq, Repr

namespace ReportedVersion

/-- The version with the same numbers in full width. -/
def widen (v : ReportedVersion) : Version :=
  ⟨v.major.toUInt32, v.minor.toUInt32, v.patch.toUInt32⟩

/-- The three numbers with points between them. -/
def text (v : ReportedVersion) : String := v.widen.text

/-- The version that the text of a reported version names. -/
def version (v : ReportedVersion) : Except ReleaseError Version := Version.ofRelease v.text

end ReportedVersion

end SocketAttribution
