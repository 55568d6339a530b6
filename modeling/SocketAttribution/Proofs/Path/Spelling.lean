import SocketAttribution.Path.Components

/-!
# How a place below the root may be spelled

A path that starts at the root is a row of segments with a slash in front of each. Empty segments
and single dots say nothing, and the others are the names of its components. So the spellings of a
place are known without taking any path apart: they are the rows of segments in which the names
stand in order, with empty segments and dots between them.

## Main definitions

* `Path.Spells`: the segments of a path that say something are certain names.

## Main statements

* `Text.pieces_append_flatMap`, `Text.eq_append_flatMap_of_pieces`: segments behind marks are the
  pieces of a text.
* `Path.exists_segments_iff`: the absolute paths are the rows of segments.
* `Path.components_eq_names_iff`: **the spellings of a place** are all paths with its components.
-/

namespace SocketAttribution

namespace Text

variable {α : Type} {isMark : α → Bool} {mark : α}

/-- **A text with segments behind marks** has the pieces that it was put together from. -/
theorem pieces_append_flatMap (marks : isMark mark = true) {first : List α}
    {segments : List (List α)}
    (unmarked : ∀ segment ∈ first :: segments, ∀ c ∈ segment, isMark c = false) :
    pieces isMark (first ++ segments.flatMap (mark :: ·)) = first :: segments := by
  induction segments generalizing first with
  | nil =>
      rw [List.flatMap_nil, List.append_nil]
      exact pieces_of_unmarked (unmarked first List.mem_cons_self)
  | cons segment rest ih =>
      rw [List.flatMap_cons, List.cons_append, pieces_append (unmarked first List.mem_cons_self)
        marks]
      exact congrArg _ (ih fun other mem => unmarked other (List.mem_cons_of_mem _ mem))

/-- A text is put together from its pieces, and none of them holds a mark. -/
theorem eq_append_flatMap_of_pieces (only : ∀ c, isMark c = true → c = mark) {s : List α}
    {first : List α} {segments : List (List α)} (cut : pieces isMark s = first :: segments) :
    s = first ++ segments.flatMap (mark :: ·) ∧
      ∀ segment ∈ first :: segments, ∀ c ∈ segment, isMark c = false := by
  induction s generalizing first segments with
  | nil =>
      cases cut
      exact ⟨rfl, by simp⟩
  | cons c rest ih =>
      obtain ⟨piece, later, behind⟩ := List.exists_cons_of_ne_nil (pieces_ne_nil isMark rest)
      obtain ⟨whole, unmarked⟩ := ih behind
      rw [pieces, behind] at cut
      cases marked : isMark c with
      | true =>
          -- The mark ends an empty piece, and the pieces behind it are those of the rest.
          obtain ⟨rfl, rfl⟩ : [] = first ∧ piece :: later = segments := by simpa [marked] using cut
          refine ⟨?_, ?_⟩
          · rw [only c marked, whole]
            rfl
          · intro segment mem
            rcases List.mem_cons.1 mem with rfl | mem
            · simp
            · exact unmarked segment mem
      | false =>
          -- The first piece of the rest becomes longer by this character.
          obtain ⟨rfl, rfl⟩ : c :: piece = first ∧ later = segments := by simpa [marked] using cut
          refine ⟨congrArg (c :: ·) whole, ?_⟩
          intro segment mem d there
          rcases List.mem_cons.1 mem with rfl | mem
          · rcases List.mem_cons.1 there with rfl | there
            · exact marked
            · exact unmarked piece List.mem_cons_self d there
          · exact unmarked segment (List.mem_cons_of_mem _ mem) d there

end Text

namespace Path

variable {p : Path} {names segments : List (List UInt8)}

/-- The path is a row of segments, each behind a slash, in which just these names stand besides
empty segments and single dots. -/
def Spells (p : Path) (names : List (List UInt8)) : Prop :=
  ∃ segments : List (List UInt8), segments ≠ [] ∧ (∀ segment ∈ segments, slash ∉ segment) ∧
    p.bytes = segments.flatMap (slash :: ·) ∧
    segments.filter (fun segment => segment ≠ [] ∧ segment ≠ dot) = names

theorem not_mem_iff_unmarked {segment : List UInt8} :
    slash ∉ segment ↔ ∀ b ∈ segment, (b == slash) = false := by
  constructor
  · intro absent b mem
    rw [beq_eq_false_iff_ne]
    rintro rfl
    exact absent mem
  · intro unmarked mem
    simpa using unmarked slash mem

/-- The pieces of a row of segments are the segments and, in front of the first slash, nothing. -/
theorem pieces_of_segments (clean : ∀ segment ∈ segments, slash ∉ segment)
    (whole : p.bytes = segments.flatMap (slash :: ·)) : p.pieces = [] :: segments := by
  have unmarked : ∀ segment ∈ [] :: segments, ∀ b ∈ segment, (b == slash) = false := by
    intro segment mem
    rcases List.mem_cons.1 mem with rfl | mem
    · simp
    · exact not_mem_iff_unmarked.1 (clean segment mem)
  have cut : Text.pieces (· == slash) ([] ++ segments.flatMap (slash :: ·)) = [] :: segments := by
    apply Text.pieces_append_flatMap
    · exact beq_self_eq_true slash
    · exact unmarked
  rw [pieces, whole]
  exact cut

/-- **The absolute paths are the rows of segments.** -/
theorem exists_segments_iff : p.isAbsolute = true ↔
    ∃ segments : List (List UInt8), segments ≠ [] ∧ (∀ segment ∈ segments, slash ∉ segment) ∧
      p.bytes = segments.flatMap (slash :: ·) := by
  constructor
  · intro absolute
    obtain ⟨rest, starts⟩ : ∃ rest, p.bytes = slash :: rest := by
      rw [isAbsolute, beq_iff_eq, List.head?_eq_some_iff] at absolute
      exact absolute
    obtain ⟨first, later, cut⟩ :=
      List.exists_cons_of_ne_nil (Text.pieces_ne_nil (· == slash) rest)
    obtain ⟨whole, unmarked⟩ := Text.eq_append_flatMap_of_pieces (fun c => eq_of_beq) cut
    refine ⟨first :: later, List.cons_ne_nil _ _, ?_, ?_⟩
    · exact fun segment mem => not_mem_iff_unmarked.2 (unmarked segment mem)
    · rw [starts, whole]
      rfl
  · rintro ⟨segments, some, -, whole⟩
    obtain ⟨first, later, rfl⟩ := List.exists_cons_of_ne_nil some
    rw [isAbsolute, whole]
    rfl

/-- No piece stands for the root. -/
theorem root_not_mem_filterMap (segments : List (List UInt8)) :
    Component.root ∉ segments.filterMap component? := by
  intro mem
  obtain ⟨piece, -, reads⟩ := List.mem_filterMap.1 mem
  unfold component? at reads
  split at reads
  · cases reads
  · split at reads <;> cases reads

/-- What the segments of a row say is names, if no segment that says something is a step up. -/
theorem filterMap_component?_eq_iff (proper : dotDot ∉ names) :
    segments.filterMap component? = names.map .name ↔
      segments.filter (fun segment => segment ≠ [] ∧ segment ≠ dot) = names := by
  induction segments generalizing names with
  | nil => simp [eq_comm]
  | cons segment rest ih =>
      by_cases silent : segment = [] ∨ segment = dot
      · have unread : component? segment = none := if_pos silent
        have dropped : ¬ (segment ≠ [] ∧ segment ≠ dot) := fun kept =>
          silent.elim kept.1 kept.2
        rw [List.filterMap_cons_none unread, List.filter_cons_of_neg (by simpa using dropped)]
        exact ih proper
      · have kept : segment ≠ [] ∧ segment ≠ dot := not_or.1 silent
        rw [List.filter_cons_of_pos (by simpa using kept)]
        by_cases up : segment = dotDot
        · -- A step up is no name, and the names hold none.
          have read : component? segment = some .up := by rw [component?, if_neg silent, if_pos up]
          rw [List.filterMap_cons_some read]
          constructor
          · intro same
            cases names <;> cases same
          · rintro rfl
            exact absurd (up ▸ List.mem_cons_self) proper
        · have read : component? segment = some (.name segment) := by
            rw [component?, if_neg silent, if_neg up]
          rw [List.filterMap_cons_some read]
          cases names with
          | nil => simp
          | cons name names =>
              rw [List.mem_cons, not_or] at proper
              rw [List.map_cons, List.cons.injEq, List.cons.injEq, ih proper.2]
              simp

/-- **The spellings of a place** below the root are all paths with its components. -/
theorem components_eq_names_iff (proper : dotDot ∉ names) :
    p.components = .root :: names.map .name ↔ p.Spells names := by
  constructor
  · intro same
    have absolute : p.isAbsolute = true := by
      have rooted : Component.root ∈ p.components := same ▸ List.mem_cons_self
      rw [components] at rooted
      split at rooted
      · assumption
      · exfalso
        split at rooted
        · rcases List.mem_cons.1 rooted with here | mem
          · cases here
          · exact root_not_mem_filterMap _ mem
        · exact root_not_mem_filterMap _ rooted
    obtain ⟨segments, some, clean, whole⟩ := exists_segments_iff.1 absolute
    refine ⟨segments, some, clean, whole, (filterMap_component?_eq_iff proper).1 ?_⟩
    rw [components, if_pos absolute, pieces_of_segments clean whole] at same
    exact (List.cons.inj same).2
  · rintro ⟨segments, some, clean, whole, named⟩
    have absolute : p.isAbsolute = true := exists_segments_iff.2 ⟨segments, some, clean, whole⟩
    rw [components, if_pos absolute, pieces_of_segments clean whole]
    exact congrArg _ ((filterMap_component?_eq_iff proper).2 named)

end Path

end SocketAttribution
