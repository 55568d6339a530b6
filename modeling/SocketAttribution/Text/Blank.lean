/-!
# Blank characters

The blank characters of Unicode (the `White_Space` property) and the removal of blanks from the
two ends of a text.

## Main definitions

* `isBlank`: membership in the property.
* `trim`: the text without the blanks at its two ends.

## Design notes

The property is a table of ranges, because core's `Char.isWhitespace` knows ASCII alone.
-/

namespace SocketAttribution.Text

/-- The ranges of `White_Space`, both ends included, in increasing order. -/
def blankRanges : List (Nat × Nat) :=
  [(0x09, 0x0D), (0x20, 0x20), (0x85, 0x85), (0xA0, 0xA0), (0x1680, 0x1680), (0x2000, 0x200A),
    (0x2028, 0x2029), (0x202F, 0x202F), (0x205F, 0x205F), (0x3000, 0x3000)]

/-- Whether a character has the `White_Space` property. -/
def isBlank (c : Char) : Bool :=
  blankRanges.any fun r => r.1 ≤ c.toNat && c.toNat ≤ r.2

/-- The text without the blanks that end it. -/
def trimEnd (s : List Char) : List Char :=
  (s.reverse.dropWhile isBlank).reverse

/-- The text without the blanks at either end. -/
def trim (s : List Char) : List Char :=
  trimEnd (s.dropWhile isBlank)

@[simp] theorem trimEnd_nil : trimEnd [] = [] := rfl

@[simp] theorem trim_nil : trim [] = [] := rfl

/-- A text of blanks alone trims to nothing. -/
theorem trim_eq_nil_of_all {s : List Char} (h : ∀ c ∈ s, isBlank c = true) : trim s = [] := by
  have nothing : s.dropWhile isBlank = [] := by
    induction s with
    | nil => rfl
    | cons c s ih => simp [List.dropWhile, h c (by simp), ih fun d hd => h d (by simp [hd])]
  rw [trim, nothing, trimEnd_nil]

end SocketAttribution.Text
