import SocketAttribution.Charge.Quota
import SocketAttribution.Hook.Program
import SocketAttribution.Platform.Admission
import SocketAttribution.Platform.Release
import SocketAttribution.Socket.Query
import SocketAttribution.Text.Control
import SocketAttribution.Text.Duration

/-!
# Options of the command line

The options that commands take, what their values mean, and what can be wrong with them.

## Main definitions

* `OptionName`, `OptionName.Value`: an option and the type of its value.
* `UsageError`: what can be wrong with a command line.
* `OptionName.read`: the value that a text stands for.
* `readTag`: the tag that a numeral stands for, decimal or hexadecimal behind `0x`.
* `Settings`: options that were given, with their values.
-/

namespace SocketAttribution

/-! ## Tags -/

/-- Why a text is no tag. -/
structure TagNumeralError where
  raw : String
  fault : Text.NumeralError
  deriving DecidableEq, Repr

/-- The wording of the error. -/
def TagNumeralError.message (e : TagNumeralError) : String :=
  s!"invalid tag '{e.raw}': {e.fault.message}"

/-- The number that a tag's text stands for. A plus sign may stand in front of the digits. -/
def tagNumber : List Char → Except Text.NumeralError Nat
  | '0' :: 'x' :: digits => Text.readUnsigned 16 UInt32.size digits
  | digits => Text.readUnsigned 10 UInt32.size digits

/-- Reads a tag. -/
def readTag (raw : String) : Except TagNumeralError UInt32 :=
  match tagNumber raw.toList with
  | .ok value => .ok (UInt32.ofNat value)
  | .error fault => .error ⟨raw, fault⟩

/-- The text of a tag in logs. -/
def tagText (tag : UInt32) : String := Text.hexText tag.toNat

namespace CommandLine

/-! ## Options -/

/-- An option of the command line. -/
inductive OptionName where
  | pinRoot
  | cgroupPath
  | platformTier
  | kernelVersion
  | loaderTimeout
  | perUidLimit
  | totalLimit
  | mapCapacity
  | kernel32
  | userspace32
  | uid
  | fd
  | tag
  deriving DecidableEq, Repr

namespace OptionName

/-- The word behind the two dashes. -/
def word : OptionName → String
  | .pinRoot => "pin-root"
  | .cgroupPath => "cgroup-path"
  | .platformTier => "platform-tier"
  | .kernelVersion => "kernel-version"
  | .loaderTimeout => "loader-timeout-secs"
  | .perUidLimit => "per-uid-limit"
  | .totalLimit => "total-limit"
  | .mapCapacity => "map-capacity"
  | .kernel32 => "kernel-32bit"
  | .userspace32 => "userspace-32bit"
  | .uid => "uid"
  | .fd => "fd"
  | .tag => "tag"

/-- What the value is called, if the option takes one. -/
def valueName? : OptionName → Option String
  | .pinRoot => some "DIR"
  | .cgroupPath => some "DIR"
  | .platformTier => some "PLATFORM_TIER"
  | .kernelVersion => some "VERSION"
  | .loaderTimeout => some "SECS"
  | .perUidLimit => some "PER_UID_LIMIT"
  | .totalLimit => some "TOTAL_LIMIT"
  | .mapCapacity => some "MAP_CAPACITY"
  | .kernel32 => none
  | .userspace32 => none
  | .uid => some "UID"
  | .fd => some "FD"
  | .tag => some "TAG"

/-- The option as messages show it. -/
def shown (o : OptionName) : String :=
  match o.valueName? with
  | some name => s!"--{o.word} <{name}>"
  | none => s!"--{o.word}"

/-- The type of the option's value; giving a flag is all there is to it. -/
abbrev Value : OptionName → Type
  | .pinRoot => Path
  | .cgroupPath => Path
  | .platformTier => Tier
  | .kernelVersion => Version
  | .loaderTimeout => UInt64
  | .perUidLimit => UInt32
  | .totalLimit => UInt32
  | .mapCapacity => UInt32
  | .kernel32 => Unit
  | .userspace32 => Unit
  | .uid => UInt32
  | .fd => Int32
  | .tag => UInt32

/-- The values that the option can have, where they are listed. -/
def choices : OptionName → List String
  | .platformTier => Tier.all.map Tier.argument
  | _ => []

end OptionName

/-- What can be wrong with a command line. -/
inductive UsageError where
  /-- There is nothing that this could be. -/
  | unexpectedArgument (shown : String)
  | unrecognisedCommand (word : String)
  /-- An option stands without its value. -/
  | missingValue (name : OptionName)
  /-- The value is none of those listed. -/
  | noSuchChoice (name : OptionName) (value : String)
  | badValue (name : OptionName) (value reason : String)
  | repeated (name : OptionName)
  /-- A flag stands with a value. -/
  | valueForFlag (shown value : String)
  /-- Options that the command cannot do without. -/
  | missingOptions (names : List OptionName)
  deriving DecidableEq, Repr

namespace UsageError

/-- The list of the values that an option can have, if there is one. -/
def choicesText (style : String → String) (name : OptionName) : String :=
  match name.choices with
  | [] => ""
  | choices => "[possible values: " ++ ", ".intercalate (choices.map style) ++ "]"

/-- The list of the values that an option can have, on a line of its own. -/
def choicesLine (name : OptionName) : String :=
  if name.choices.isEmpty then "" else "\n  " ++ choicesText Text.emphasised name

/-- What is wrong. What was given, and what could have been, stands out from the rest. -/
def complaint : UsageError → String
  | .unexpectedArgument shown => s!"unexpected argument '{Text.emphasised shown}' found"
  | .unrecognisedCommand word => s!"unrecognized subcommand '{Text.emphasised word}'"
  | .missingValue name =>
    s!"a value is required for '{Text.emphasised name.shown}' but none was supplied" ++
      choicesLine name
  | .noSuchChoice name value =>
    s!"invalid value '{Text.emphasised value}' for '{Text.emphasised name.shown}'" ++
      choicesLine name
  | .badValue name value reason =>
    s!"invalid value '{Text.emphasised value}' for '{Text.emphasised name.shown}': {reason}"
  | .repeated name =>
    s!"the argument '{Text.emphasised name.shown}' cannot be used multiple times"
  | .valueForFlag shown value =>
    s!"unexpected value '{Text.emphasised value}' for '{Text.emphasised shown}' found; " ++
      "no more were expected"
  | .missingOptions names =>
    "the following required arguments were not provided:" ++
      String.join (names.map fun name => "\n  " ++ Text.emphasised name.shown)

/-- The message as a terminal would show it. -/
def message (e : UsageError) : String :=
  Text.emphasised "error:" ++ " " ++ e.complaint ++ "\n\nFor more information, try '" ++
    Text.emphasised "--help" ++ "'.\n"

end UsageError

/-! ## Values -/

/-- A number between two bounds. It is read as one of 64 bits first, so a number that is too large
even for that is told apart from one that is out of bounds. -/
def readBetween (low high : Int) (text : String) : Except String Int :=
  match Text.readSigned (UInt64.size / 2) text.toList with
  | .error fault => .error fault.message
  | .ok value =>
    if low ≤ value ∧ value ≤ high then .ok value
    else .error s!"{value} is not in {low}..={high}"

/-- A number of 32 bits without a sign. -/
def readWord (text : String) : Except String UInt32 :=
  (readBetween 0 4294967295 text).map fun value => UInt32.ofNat value.toNat

/-- A number of 32 bits with a sign. -/
def readSignedWord (text : String) : Except String Int32 :=
  (readBetween (-2147483648) 2147483647 text).map Int32.ofInt

/-- A count of seconds. -/
def readSeconds (text : String) : Except String UInt64 :=
  match Text.readUnsigned 10 UInt64.size text.toList with
  | .error fault => .error fault.message
  | .ok value => .ok (UInt64.ofNat value)

/-- A path, which must not be empty. -/
def readPath (name : OptionName) (text : String) : Except UsageError Path :=
  if text.isEmpty then .error (.missingValue name) else .ok (.ofString text)

/-- A tier by its letter. -/
def readTier (text : String) : Except UsageError Tier :=
  match Tier.all.find? fun tier => tier.argument == text with
  | some tier => .ok tier
  | none =>
    if text.isEmpty then .error (.missingValue .platformTier)
    else .error (.noSuchChoice .platformTier text)

/-- The value that a text stands for, given what its option asks of it. -/
def OptionName.read (name : OptionName) (text : String) : Except UsageError name.Value :=
  match name with
  | .pinRoot => readPath .pinRoot text
  | .cgroupPath => readPath .cgroupPath text
  | .platformTier => readTier text
  | .kernelVersion =>
    (Version.ofRelease text).mapError fun fault => .badValue .kernelVersion text fault.message
  | .loaderTimeout => (readSeconds text).mapError (.badValue .loaderTimeout text)
  | .perUidLimit => (readWord text).mapError (.badValue .perUidLimit text)
  | .totalLimit => (readWord text).mapError (.badValue .totalLimit text)
  | .mapCapacity => (readWord text).mapError (.badValue .mapCapacity text)
  | .kernel32 => .ok ()
  | .userspace32 => .ok ()
  | .uid => (readWord text).mapError (.badValue .uid text)
  | .fd => (readSignedWord text).mapError (.badValue .fd text)
  | .tag => (readTag text).mapError fun fault => .badValue .tag text fault.message

/-! ## Settings -/

/-- Options that were given, with their values. -/
abbrev Settings := List ((name : OptionName) × name.Value)

namespace Settings

/-- The value of an option, if it was given. -/
def get? (name : OptionName) : Settings → Option name.Value
  | [] => none
  | ⟨given, value⟩ :: rest => if h : given = name then some (h ▸ value) else get? name rest

/-- Whether an option was given. -/
def has (s : Settings) (name : OptionName) : Bool := s.any (·.1 == name)

end Settings

end CommandLine

end SocketAttribution
