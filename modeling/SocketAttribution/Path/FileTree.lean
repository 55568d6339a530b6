import SocketAttribution.Path.Components
import SocketAttribution.SystemError

/-!
# File trees

A tree of files, directories and links, and the walk of a path through it.

## Main definitions

* `FileTree`: what lies where, and the directory in which relative paths start.
* `FileTree.resolve`: the place a path leads to, or the error that stops the walk.
* `FileTree.contains`, `FileTree.openDirectory`: the two questions the agent asks.

## Design notes

A walk goes piece by piece and every link on its way is followed, the last one too. Before a piece
is looked up the place must be a directory, so a file with anything behind it, and be it a slash,
is an error.
-/

namespace SocketAttribution

/-- The names that lead from the root to a place. -/
abbrev Location := List (List UInt8)

/-- What can lie at a place. -/
inductive FileNode where
  | file
  | directory
  | link (target : Path)
  deriving DecidableEq, Repr

/-- A tree of files, and the directory in which relative paths start. The root is a directory
without being listed. -/
structure FileTree where
  nodes : List (Location × FileNode)
  start : Location

namespace FileTree

/-- The most bytes that a name may have. -/
def maxName : Nat := 255

/-- The least number of bytes at which a path is too long. -/
def maxPath : Nat := 4096

/-- How many links one walk may follow. -/
def maxLinks : Nat := 40

/-- What lies at a place. -/
def node? (t : FileTree) (place : Location) : Option FileNode :=
  if place = [] then some .directory else t.nodes.lookup place

/-- The steps that a path asks for: its pieces without the empty ones, and a step to the place
itself for a slash at the end. -/
def steps (p : Path) : List (List UInt8) :=
  p.pieces.filter (· ≠ []) ++
    if p.bytes.getLast? = some Path.slash then [Path.dot] else []

/-- Walks the steps from a place that is a directory unless `node` says otherwise; `links` more
links may be followed. -/
def walk (t : FileTree) (links : Nat) (place : Location) (node : FileNode) :
    List (List UInt8) → Except ErrorCode (Location × FileNode)
  | [] => .ok (place, node)
  | step :: rest =>
    if node ≠ .directory then .error ErrorCode.notDirectory
    else if step = Path.dot then t.walk links place node rest
    else if step = Path.dotDot then t.walk links place.dropLast .directory rest
    else if maxName < step.length then .error ErrorCode.nameTooLong
    else
      match t.node? (place ++ [step]) with
      | none => .error ErrorCode.noEntry
      | some (.link target) =>
        match links with
        | 0 => .error ErrorCode.tooManyLinks
        | links + 1 =>
          t.walk links (if target.isAbsolute then [] else place) .directory (steps target ++ rest)
      | some found => t.walk links (place ++ [step]) found rest
termination_by todo => (links, todo.length)

/-- The place that a path leads to and what lies there. -/
def resolve (t : FileTree) (p : Path) : Except SystemError (Location × FileNode) :=
  if p.nulPosition?.isSome then .error .nulInName
  else if p.isEmpty then .error (.os ErrorCode.noEntry)
  else if maxPath ≤ p.bytes.length then .error (.os ErrorCode.nameTooLong)
  else (t.walk maxLinks (if p.isAbsolute then [] else t.start) .directory (steps p)).mapError .os

/-- Whether there is anything where a path leads. -/
def contains (t : FileTree) (p : Path) : Bool := (t.resolve p).toBool

/-- The directory that a path leads to. -/
def openDirectory (t : FileTree) (p : Path) : Except SystemError Location :=
  match t.resolve p with
  | .ok (place, .directory) => .ok place
  | .ok _ => .error (.os ErrorCode.notDirectory)
  | .error e => .error e

end FileTree

end SocketAttribution
