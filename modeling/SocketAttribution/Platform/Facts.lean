import SocketAttribution.Path.Basic
import SocketAttribution.Platform.Version

/-!
# Platform facts

Everything that admission and planning decide on.

## Main definitions

* `Tier`: the release tiers of the platform.
* `KernelFacts`, `PlatformFacts`: what is known of a kernel and of a platform.
-/

namespace SocketAttribution

/-- The release tiers of the platform in increasing order. `s` predates the agent. -/
inductive Tier where
  | s
  | t
  | u
  | v
  deriving DecidableEq, Repr

namespace Tier

/-- The place of a tier in the order. -/
def rank : Tier → Nat
  | .s => 0
  | .t => 1
  | .u => 2
  | .v => 3

instance : LE Tier := ⟨fun a b => a.rank ≤ b.rank⟩

instance (a b : Tier) : Decidable (a ≤ b) := inferInstanceAs (Decidable (a.rank ≤ b.rank))

/-- All tiers in increasing order. -/
def all : List Tier := [.s, .t, .u, .v]

/-- The letter of a tier. -/
def letter : Tier → String
  | .s => "S"
  | .t => "T"
  | .u => "U"
  | .v => "V"

/-- The letter that names a tier on a command line. -/
def argument : Tier → String
  | .s => "s"
  | .t => "t"
  | .u => "u"
  | .v => "v"

end Tier

/-- What is known of a kernel and of the programs that run on it. -/
structure KernelFacts where
  version : Version
  /-- The kernel is a 32-bit one. -/
  kernel32 : Bool
  /-- Programs are 32-bit ones. -/
  userspace32 : Bool
  deriving DecidableEq, Repr

/-- What is known of a platform. -/
structure PlatformFacts where
  tier : Tier
  kernel : KernelFacts
  /-- The directory that hooks attach to. -/
  cgroupPath : Option Path
  deriving DecidableEq, Repr

end SocketAttribution
