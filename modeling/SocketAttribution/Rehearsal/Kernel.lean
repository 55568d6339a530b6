import SocketAttribution.CommandLine.Call
import SocketAttribution.Path.FileTree
import SocketAttribution.Platform.Running
import SocketAttribution.Rehearsal.Desk
import SocketAttribution.Rehearsal.Host
import SocketAttribution.Startup.Tables
import SocketAttribution.Table.Pinned
import SocketAttribution.Text.Numeral

/-!
# A kernel in memory

The pins, maps, hooks and sockets that the agent finds on a real system, held in memory. It answers
everything that the agent asks, and keeps a trace of the calls that reach it.

## Main definitions

* `Trap`: a call that reached the kernel, and its line in a trace.
* `Kernel`: the state.
* `Kernel.answerStartup`, `Kernel.answerTag`, `Kernel.answerSystem`, `Kernel.answerAgent`: its
  answers.

## Design notes

An open table is known by the path of its pin. What is pinned there may be replaced while the table
is open, and the table then sees the new map; a pin that is gone leaves a bad descriptor.
-/

namespace SocketAttribution

/-! ## Traces -/

/-- The two hexadecimal digits of a byte. -/
def Text.hexByte (b : UInt8) : List Char :=
  [digitChar (b.toNat / 16), digitChar (b.toNat % 16)]

/-- Bytes as hexadecimal text. -/
def Text.hexBytes (bytes : List UInt8) : String :=
  String.ofList (bytes.flatMap hexByte)

/-- A call that reached the kernel. -/
inductive Trap where
  | get (path : Path) (flags : Nat)
  | attach (program : Path) (type : UInt32) (directory : Option Location)
  | query (type : UInt32)
  | lookup (path : Path) (key : Bytes)
  | update (path : Path) (key value : Bytes)
  | delete (path : Path) (key : Bytes)
  /-- The option of a socket, by its number and the length of its value. -/
  | socketOption (socket : Descriptor) (option length : Nat)

namespace Trap

/-- The last name of a directory's place, or a slash for the root. -/
def directoryName : Option Location → String
  | none => "null"
  | some place =>
    match place.getLast? with
    | none => "/"
    | some name => String.ofList (Text.Utf8.decodeLossy name)

/-- The call as a line. -/
def line : Trap → String
  | .get path flags => s!"get {path.text} {flags}"
  | .attach program type directory =>
    s!"attach {program.text} {type} on {directoryName directory} flags 0 0"
  | .query type => s!"query {type} flags 0"
  | .lookup path key => s!"lookup {path.text} {Text.hexBytes key}"
  | .update path key value =>
    s!"update {path.text} {Text.hexBytes key} {Text.hexBytes value} 0"
  | .delete path key => s!"delete {path.text} {Text.hexBytes key}"
  | .socketOption socket option length => s!"getsockopt {socket} {option} {length}"

end Trap

/-- A kernel in memory. -/
structure Kernel where
  maps : List (Path × KernelMap)
  programs : List Path
  faults : List (Path × MapFaults)
  board : Board
  /-- What sockets answer; a cookie of zero is what the kernel says of a socket without one. -/
  sockets : SocketSheet
  user : UInt32
  name : SystemName
  /-- The system stops naming itself after so many more calls. -/
  nameFault : Option (Nat × ErrorCode)
  tree : FileTree
  looks : Nat
  /-- The calls so far, last first. -/
  trace : List Trap

namespace Kernel

/-- A kernel over a file tree on which nothing is pinned. -/
def empty (tree : FileTree) : Kernel :=
  ⟨[], [], [], .empty, [], 0, .ofTexts "6.1.0" "#1 SMP" "x86_64", none, tree, 0, []⟩

/-- The kernel with one more call in its trace. -/
def record (k : Kernel) (trap : Trap) : Kernel := { k with trace := trap :: k.trace }

/-- The faults of a pin. -/
def faultsOf (k : Kernel) (path : Path) : MapFaults := (k.faults.lookup path).getD .none

/-- The kernel with another map at a pin. -/
def setMap (k : Kernel) (path : Path) (map : KernelMap) : Kernel :=
  { k with maps := k.maps.map fun entry => if entry.1 = path then (path, map) else entry }

/-! ## Programs and pins -/

/-- The flag by which a pin is opened for reading alone. -/
def readOnlyFlag : Nat := 8

/-- Whether anything is pinned at a path. -/
def isPinned (k : Kernel) (path : Path) : Bool :=
  k.programs.contains path || (k.maps.lookup path).isSome

/-- Opens what is pinned at a path. -/
def obtain (k : Kernel) (path : Path) : Except SystemError Path :=
  match (k.faultsOf path).get with
  | some code => .error (.os code)
  | none => if k.isPinned path then .ok path else .error (.os ErrorCode.noEntry)

/-- Says what an opened pin is; a program is no map. -/
def describe (k : Kernel) (path : Path) : Except SystemError MapInfo :=
  match (k.faultsOf path).info with
  | some code => .error (.os code)
  | none =>
    match k.maps.lookup path with
    | some map => .ok map.info
    | none => .error (.os ErrorCode.invalidArgument)

/-- The answers to a program host's calls. A path with a NUL byte does not reach the kernel. -/
def answerHost : (call : HostCall Path (Option Location)) → Kernel → call.Answer × Kernel
  | .retrieve path, k =>
    if path.nulPosition?.isSome then (.error (.os ErrorCode.invalidArgument), k)
    else (k.obtain path, k.record (.get path readOnlyFlag))
  | .attach hook program directory, k =>
    let outcome := k.board.attach hook.attachType
    (outcome.1, { k.record (.attach program hook.attachType directory) with board := outcome.2 })
  | .query hook _, k => (k.board.query hook.attachType, k.record (.query hook.attachType))

/-- The answers to calls of startup. -/
def answerStartup : (call : StartupCall Path (Option Location) Path) → Kernel →
    call.Answer × Kernel
  | .poll marker, k => (Site.look k.tree k.looks marker, { k with looks := k.looks + 1 })
  | .openDirectory path, k => ((k.tree.openDirectory path).map some, k)
  | .host call, k => answerHost call k
  | .pin (.obtain path), k => (k.obtain path, k.record (.get path 0))
  | .pin (.describe path), k => (k.describe path, k)

/-! ## Tables and sockets -/

/-- The call on an open map as it reaches the kernel; steps of a walk are not traced. -/
def trapOf (path : Path) : MapCall → Option Trap
  | .lookup key => some (.lookup path key)
  | .update key value => some (.update path key value)
  | .delete key => some (.delete path key)
  | .next _ => none

/-- The answer to a call on a pin that is gone. -/
def gone : (call : MapCall) → call.Answer
  | .lookup _ => .error ErrorCode.badDescriptor
  | .update _ _ => .error ErrorCode.badDescriptor
  | .delete _ => .error ErrorCode.badDescriptor
  | .next _ => .error ErrorCode.badDescriptor

/-- The answers to calls on the map that is pinned at a path. -/
def answerMap (path : Path) (call : MapCall) (k : Kernel) : call.Answer × Kernel :=
  match k.maps.lookup path with
  | none => (gone call, k)
  | some map =>
    let outcome := map.answer (k.faultsOf path) call
    let k := k.setMap path outcome.2
    (outcome.1, match trapOf path call with
      | some trap => k.record trap
      | none => k)

/-- Work on the map that is pinned at a path. -/
def onMap {α : Type} (path : Path) (work : MapDialogue α) (k : Kernel) : α × Kernel :=
  let t := work.run (answerMap path) k
  (t.value, t.state)

/-- The answers to questions about sockets. -/
def answerSocket : (query : SocketQuery) → Kernel → query.Answer × Kernel
  | .family socket, k => ((k.sockets.find socket).family, k.record (.socketOption socket 39 4))
  | .protocol socket, k => ((k.sockets.find socket).protocol, k.record (.socketOption socket 38 4))
  | .cookie socket, k =>
    ((k.sockets.find socket).cookie.bind cookieOfKernel, k.record (.socketOption socket 57 8))

/-- The answers to calls of a tagger over open tables. -/
def answerTables (tables : Tables Path) : (call : TagCall) → Kernel → call.Answer × Kernel
  | .stats view call, k => k.onMap (tables.slot (.ofView view)).handle (PinnedHash.perform call)
  | .configuration call, k =>
    k.onMap tables.configuration.handle
      (PinnedArray.perform tables.configuration.info.maxEntries call)
  | .permissions call, k => k.onMap tables.permissions.handle (PinnedHash.perform call)
  | .cookieTags call, k => k.onMap tables.cookieTags.handle (PinnedHash.perform call)
  | .socket query, k => answerSocket query k

/-- The answers to calls of a tagger, whose tables may not be open; calls of tables that are not
open lead to a bad descriptor. -/
def answerTag : Option (Tables Path) → (call : TagCall) → Kernel → call.Answer × Kernel
  | some tables, call, k => answerTables tables call k
  | none, .stats _ call, k => (call.refuse ⟨ErrorCode.badDescriptor⟩, k)
  | none, .configuration call, k => (call.refuse ⟨ErrorCode.badDescriptor⟩, k)
  | none, .permissions call, k => (call.refuse ⟨ErrorCode.badDescriptor⟩, k)
  | none, .cookieTags call, k => (call.refuse ⟨ErrorCode.badDescriptor⟩, k)
  | none, .socket query, k => answerSocket query k

/-! ## The system -/

/-- The answers to questions put to the running system. -/
def answerSystem : (call : SystemCall) → Kernel → call.Answer × Kernel
  | .name, k =>
    match k.nameFault with
    | none => (.ok k.name, k)
    | some (0, code) => (.error (.os code), k)
    | some (left + 1, code) => (.ok k.name, { k with nameFault := some (left, code) })
  | .user, k => (k.user, k)

/-- The answers to calls of a command. -/
def answerAgent : (call : CommandLine.AgentCall Path (Option Location) Path) → Kernel →
    call.Answer × Kernel
  | .startup call, k => answerStartup call k
  | .tagger tables call, k => answerTables tables call k
  | .system call, k => answerSystem call k

/-! ## Setting the scene -/

/-- The kernel with a map pinned at a path, or with nothing pinned there. -/
def pinMap (k : Kernel) (path : Path) (map : Option KernelMap) : Kernel :=
  let others := k.maps.filter fun entry => entry.1 ≠ path
  { k with maps := match map with
    | some map => (path, map) :: others
    | none => others }

/-- The kernel with faults for a pin. -/
def setFaults (k : Kernel) (path : Path) (faults : MapFaults) : Kernel :=
  { k with faults := (path, faults) :: k.faults.filter fun entry => entry.1 ≠ path }

end Kernel

/-- The map with entries of one user without counts: as many as said, with tags from zero on. -/
def KernelMap.fill (m : KernelMap) (uid : UInt32) (count : Nat) : KernelMap :=
  (List.range count).foldl
    (fun m tag =>
      m.set (Wire.encode (⟨uid, UInt32.ofNat tag, 0, 1⟩ : StatsKey)) (Wire.encode StatsValue.zero))
    m

end SocketAttribution
