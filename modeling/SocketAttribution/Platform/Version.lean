import SocketAttribution.Text.Numeral

/-!
# Kernel versions

## Main definitions

* `Version`: major, minor and sublevel, ordered by the first of them that differs.
* `Version.text`: the three numbers with points between them.
-/

namespace SocketAttribution

/-- A kernel version. -/
structure Version where
  major : UInt32
  minor : UInt32
  sub : UInt32
  deriving DecidableEq, Repr

namespace Version

/-- One version precedes another if it is smaller where they first differ. -/
def Before (a b : Version) : Prop :=
  a.major < b.major ∨ a.major = b.major ∧ (a.minor < b.minor ∨ a.minor = b.minor ∧ a.sub < b.sub)

instance : LT Version := ⟨Before⟩

instance : LE Version := ⟨fun a b => ¬ Before b a⟩

instance (a b : Version) : Decidable (a < b) := inferInstanceAs (Decidable (_ ∨ _))

instance (a b : Version) : Decidable (a ≤ b) := inferInstanceAs (Decidable (¬ b < a))

theorem lt_iff {a b : Version} :
    a < b ↔ a.major < b.major ∨
      a.major = b.major ∧ (a.minor < b.minor ∨ a.minor = b.minor ∧ a.sub < b.sub) :=
  Iff.rfl

theorem le_iff_not_lt {a b : Version} : a ≤ b ↔ ¬ b < a := Iff.rfl

/-- The order of two versions. -/
def order (a b : Version) : Ordering :=
  if a < b then .lt else if b < a then .gt else .eq

/-- The three numbers with points between them, as characters. -/
def chars (v : Version) : List Char :=
  Text.decimal v.major.toNat ++ '.' :: (Text.decimal v.minor.toNat ++ '.' ::
    Text.decimal v.sub.toNat)

/-- The three numbers with points between them. -/
def text (v : Version) : String := String.ofList v.chars

end Version

end SocketAttribution
