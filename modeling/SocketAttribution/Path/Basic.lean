import SocketAttribution.Text.Utf8

/-!
# Paths

A path is a list of bytes, which need not be text.

## Main definitions

* `Path`, `Path.ofString`: a path, and the path that a text spells.
* `Path.join`: the path of a name below a root.
* `Path.text`, `Path.text?`: the path as text, lossily or only if it is text.
-/

namespace SocketAttribution

/-- A path of the file system. -/
structure Path where
  bytes : List UInt8
  deriving DecidableEq, Repr

namespace Path

/-- The byte that parts the pieces of a path. -/
def slash : UInt8 := 0x2F

/-- The path that a text spells. -/
def ofString (s : String) : Path := ⟨Text.Utf8.encode s.toList⟩

/-- The path as text; each part that is no text becomes the replacement character. -/
def text (p : Path) : String := String.ofList (Text.Utf8.decodeLossy p.bytes)

/-- The path as text, if it is text. -/
def text? (p : Path) : Option String := (Text.Utf8.decode p.bytes).toOption.map String.ofList

/-- Whether there is nothing in the path. -/
def isEmpty (p : Path) : Bool := p.bytes.isEmpty

/-- Where the first NUL byte stands, if there is one. -/
def nulPosition? (p : Path) : Option Nat := p.bytes.findIdx? (· == 0)

/-- The path of a name below a root. A slash parts the two, unless the root is empty or ends in
one. -/
def join (root : Path) (name : String) : Path :=
  let below := Text.Utf8.encode name.toList
  if root.bytes = [] ∨ root.bytes.getLast? = some slash then ⟨root.bytes ++ below⟩
  else ⟨root.bytes ++ slash :: below⟩

/-- A name below the empty root is the name. -/
@[simp] theorem join_empty (name : String) : join ⟨[]⟩ name = ofString name := by
  simp [join, ofString]

end Path

end SocketAttribution
