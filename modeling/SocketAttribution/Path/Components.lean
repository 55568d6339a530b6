import SocketAttribution.Path.Basic
import SocketAttribution.Text.Pieces

/-!
# Components of a path

What a path says once repeated slashes, slashes at its end and steps to the place itself are left
out of account.

## Main definitions

* `Path.pieces`: what stands between the slashes.
* `Path.components`: the root, the steps up and the names, in order.
* `Path.Same`: two paths with the same components.
-/

namespace SocketAttribution.Path

/-- One component of a path. -/
inductive Component where
  /-- The root, in front of a path that starts with a slash. -/
  | root
  /-- The place itself; only the start of a path that does not start at the root. -/
  | here
  /-- One directory up. -/
  | up
  /-- The entry of this name. -/
  | name (bytes : List UInt8)
  deriving DecidableEq, Repr

/-- The piece that means the place itself. -/
def dot : List UInt8 := [0x2E]

/-- The piece that means one directory up. -/
def dotDot : List UInt8 := [0x2E, 0x2E]

/-- What stands between the slashes of a path. -/
def pieces (p : Path) : List (List UInt8) := Text.pieces (· == slash) p.bytes

/-- The component of a piece; an empty piece and a step to the place itself have none. -/
def component? (piece : List UInt8) : Option Component :=
  if piece = [] ∨ piece = dot then none
  else if piece = dotDot then some .up
  else some (.name piece)

/-- Whether the path starts at the root. -/
def isAbsolute (p : Path) : Bool := p.bytes.head? == some slash

/-- The components of a path. -/
def components (p : Path) : List Component :=
  let named := p.pieces.filterMap component?
  if p.isAbsolute then .root :: named
  else if p.pieces.head? = some dot then .here :: named
  else named

/-- Whether two paths have the same components. -/
def Same (p q : Path) : Prop := p.components = q.components

instance (p q : Path) : Decidable (Same p q) := inferInstanceAs (Decidable (_ = _))

@[simp] theorem component?_nil : component? [] = none := rfl

@[simp] theorem component?_dot : component? dot = none := rfl

end SocketAttribution.Path
