import Mathlib.Data.List.DropRight
import SocketAttribution.Text.Blank

/-!
# What trimming leaves

A text is trimmed to what stands between the blanks at its two ends, and there is one such text
only. What stands behind a text that neither starts nor ends with a blank is trimmed to one of its
beginnings.

## Main definitions

* `Trims`: a text between blanks that neither starts nor ends with one.

## Main statements

* `trims_iff`: that text is the trimmed one.
* `exists_trims_append`: what is left of a text with more text behind it.
-/

namespace SocketAttribution.Text

variable {s t before behind core : List Char}

/-- No digit is a blank. -/
theorem isBlank_of_isDigit {c : Char} (h : c.isDigit = true) : isBlank c = false := by
  have range : 48 ≤ c.toNat ∧ c.toNat ≤ 57 := Char.isDigit_iff_toNat.1 h
  simp only [isBlank, blankRanges, List.any_cons, List.any_nil, Bool.or_false, Bool.or_eq_false_iff,
    Bool.and_eq_false_iff, decide_eq_false_iff_not]
  omega

/-- A text stands between blanks in another one, and neither starts nor ends with a blank. -/
def Trims (s t : List Char) : Prop :=
  ∃ before behind, s = before ++ t ++ behind ∧
    (∀ c ∈ before, isBlank c = true) ∧ (∀ c ∈ behind, isBlank c = true) ∧
    (∀ c ∈ t.head?, isBlank c = false) ∧ ∀ c ∈ t.getLast?, isBlank c = false

theorem dropWhile_isBlank_append (blank : ∀ c ∈ before, isBlank c = true)
    (starts : ∀ c ∈ t.head?, isBlank c = false) : (before ++ t).dropWhile isBlank = t := by
  rw [List.dropWhile_append_of_pos blank]
  rcases t with - | ⟨c, rest⟩
  · rfl
  · exact List.dropWhile_cons_of_neg (by simpa using starts c rfl)

theorem trimEnd_append (blank : ∀ c ∈ behind, isBlank c = true)
    (ends : ∀ c ∈ t.getLast?, isBlank c = false) : trimEnd (t ++ behind) = t := by
  rw [trimEnd, List.reverse_append, dropWhile_isBlank_append, List.reverse_reverse]
  · exact fun c mem => blank c (List.mem_reverse.1 mem)
  · rwa [List.head?_reverse]

/-- A trimmed text is the front of the text, with blanks behind it. -/
theorem exists_trimEnd_append (s : List Char) :
    ∃ behind, s = trimEnd s ++ behind ∧ ∀ c ∈ behind, isBlank c = true := by
  refine ⟨(s.reverse.takeWhile isBlank).reverse, ?_, ?_⟩
  · rw [trimEnd, ← List.reverse_append, List.takeWhile_append_dropWhile, List.reverse_reverse]
  · exact fun c mem => List.mem_takeWhile_imp (List.mem_reverse.1 mem)

theorem isBlank_getLast?_trimEnd (s : List Char) :
    ∀ c ∈ (trimEnd s).getLast?, isBlank c = false := by
  intro c ends
  rw [trimEnd, List.getLast?_reverse, Option.mem_def] at ends
  have first := List.head?_dropWhile_not isBlank s.reverse
  rw [ends] at first
  exact first

/-- **Trimming leaves a text between blanks.** -/
theorem trims_trim (s : List Char) : Trims s (trim s) := by
  obtain ⟨behind, split, blank⟩ := exists_trimEnd_append (s.dropWhile isBlank)
  refine ⟨s.takeWhile isBlank, behind, ?_, fun c mem => List.mem_takeWhile_imp mem, blank, ?_,
    isBlank_getLast?_trimEnd _⟩
  · rw [List.append_assoc, trim, ← split, List.takeWhile_append_dropWhile]
  · intro c starts
    have some : trim s ≠ [] := by
      rintro none
      rw [none] at starts
      cases starts
    have first := List.head?_dropWhile_not isBlank s
    rw [split, ← trim, List.head?_append_of_ne_nil _ some, starts] at first
    exact first

/-- **The text between blanks is the trimmed one.** -/
theorem trims_iff : Trims s t ↔ t = trim s := by
  constructor
  · rintro ⟨before, behind, rfl, blank, blank', starts, ends⟩
    rcases eq_or_ne t [] with rfl | some
    · refine (trim_eq_nil_of_all fun c mem => ?_).symm
      rw [List.append_nil] at mem
      exact (List.mem_append.1 mem).elim (blank c) (blank' c)
    · rw [trim, List.append_assoc, dropWhile_isBlank_append blank, trimEnd_append blank' ends]
      rwa [List.head?_append_of_ne_nil _ some]
  · rintro rfl
    exact trims_trim s

/-- **What stands behind a text without blanks at its ends is trimmed to a beginning.** -/
theorem exists_trims_append (blank : ∀ c ∈ before, isBlank c = true) (some : core ≠ [])
    (starts : ∀ c ∈ core.head?, isBlank c = false) (ends : ∀ c ∈ core.getLast?, isBlank c = false)
    (behind : List Char) :
    ∃ kept, kept <+: behind ∧ Trims (before ++ core ++ behind) (core ++ kept) := by
  obtain ⟨rest, split, blank'⟩ := exists_trimEnd_append behind
  refine ⟨trimEnd behind, ⟨rest, split.symm⟩, before, rest, ?_, blank, blank', ?_, ?_⟩
  · rw [List.append_assoc, List.append_assoc, List.append_assoc, ← split]
  · rwa [List.head?_append_of_ne_nil _ some]
  · intro c last
    rcases eq_or_ne (trimEnd behind) [] with none | more
    · rw [none, List.append_nil] at last
      exact ends c last
    · rw [List.getLast?_append_of_ne_nil _ more] at last
      exact isBlank_getLast?_trimEnd behind c last

end SocketAttribution.Text
