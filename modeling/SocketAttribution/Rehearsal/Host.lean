import SocketAttribution.Path.FileTree
import SocketAttribution.Startup.Call

/-!
# A program host in memory

A host that keeps count of what is attached where, with calls that can be made to fail, and the
surroundings of startup around it.

## Main definitions

* `Board`: the hooks of a cgroup, by the numbers of the kernel.
* `Host`: a board and the pins that cannot be opened.
* `Site`: a host, a file tree and a clock; no map is pinned.
-/

namespace SocketAttribution

/-- The table `rows` with another row for a key; the rows stay in the order of their keys. -/
def putSorted {α : Type} (key : UInt32) (value : α) : List (UInt32 × α) → List (UInt32 × α)
  | [] => [(key, value)]
  | row :: rest =>
    if row.1 < key then row :: putSorted key value rest
    else if row.1 = key then (key, value) :: rest
    else (key, value) :: row :: rest

/-- The hooks of a cgroup, by the numbers of the kernel. -/
structure Board where
  /-- Hooks at which nothing can be attached. -/
  rejects : List (UInt32 × SystemError)
  /-- Hooks that cannot be asked for. -/
  silent : List (UInt32 × SystemError)
  /-- Hooks that take programs and do not count them. -/
  phantom : List UInt32
  /-- How many programs there are, in the order of the numbers. -/
  counts : List (UInt32 × UInt32)

namespace Board

/-- A board without hooks of any kind. -/
def empty : Board := ⟨[], [], [], []⟩

/-- How many programs there are at a hook. -/
def count (b : Board) (hook : UInt32) : UInt32 := (b.counts.lookup hook).getD 0

/-- Attaches a program at a hook. -/
def attach (b : Board) (hook : UInt32) : Except SystemError Unit × Board :=
  match b.rejects.lookup hook with
  | some e => (.error e, b)
  | none =>
    if b.phantom.contains hook then (.ok (), b)
    else (.ok (), { b with counts := putSorted hook (b.count hook + 1) b.counts })

/-- Counts the programs at a hook. -/
def query (b : Board) (hook : UInt32) : Except SystemError UInt32 :=
  match b.silent.lookup hook with
  | some e => .error e
  | none => .ok (b.count hook)

end Board

/-- A host in memory. -/
structure Host where
  /-- Pins that cannot be opened, by the texts of their paths. -/
  missing : List (String × SystemError)
  board : Board

namespace Host

/-- A host that refuses nothing and has nothing attached. -/
def empty : Host := ⟨[], .empty⟩

/-- The answers of the host. A program is handed out as the path of its pin. -/
def answer {Dir : Type} : (call : HostCall Path Dir) → Host → call.Answer × Host
  | .retrieve path, h =>
    match h.missing.lookup path.text with
    | some e => (.error e, h)
    | none => (.ok path, h)
  | .attach hook _ _, h =>
    let outcome := h.board.attach hook.attachType
    (outcome.1, { h with board := outcome.2 })
  | .query hook _, h => (h.board.query hook.attachType, h)

end Host

/-- A call of a program host as a line. -/
def HostCall.line {Prog Dir : Type} : HostCall Prog Dir → String
  | .retrieve path => s!"retrieve {path.text}"
  | .attach hook _ _ => s!"attach {hook.attachType}"
  | .query hook _ => s!"query {hook.attachType}"

/-- The surroundings of startup: a host, a file tree and the looks taken so far, between which the
clock moves by one interval. -/
structure Site where
  host : Host
  tree : FileTree
  looks : Nat

namespace Site

/-- What is seen at the next look. -/
def look (tree : FileTree) (looks : Nat) (marker : Path) : Sighting :=
  ⟨tree.contains marker, .ofMillis (100 * looks)⟩

/-- The answers to calls of startup. No map is pinned, so there is no handle to one. -/
def answer : (call : StartupCall Path Location Empty) → Site → call.Answer × Site
  | .poll marker, s => (look s.tree s.looks marker, { s with looks := s.looks + 1 })
  | .openDirectory path, s => (s.tree.openDirectory path, s)
  | .host call, s =>
    let outcome := Host.answer call s.host
    (outcome.1, { s with host := outcome.2 })
  | .pin (.obtain _), s => (.error (.os ErrorCode.noEntry), s)
  | .pin (.describe handle), _ => handle.elim

end Site

end SocketAttribution
