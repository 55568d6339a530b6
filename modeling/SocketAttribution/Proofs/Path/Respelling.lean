import Mathlib.Logic.Relation
import SocketAttribution.Proofs.Path.Spelling

/-!
# What a path says, however it is spelled

A path is cut at its slashes. Of the pieces only those say something that are neither empty nor a
single dot, and what is said in front of a slash and behind it is said one after the other. So a
second slash beside a first, a dot behind a slash and a slash at the end may be put in and left out
again, and a path that says certain names may be known by what it says and by its first byte alone.

## Main definitions

* `Path.said`: the pieces of a path that say something.
* `Path.Reads`: a path starts at the root and reads as certain names.
* `Path.Padded`: a path with something put in that says nothing.

## Main statements

* `Path.said_append`: **what is said in front of a slash and behind it**.
* `Path.spells_iff_reads`: the spellings of a place are known by what they say.
* `Path.reads_iff_of_respelled`: padding, put in or left out any number of times, changes nothing.
* `Path.said_extended_iff`: what may stand behind a path that says certain names.
* `Path.Reads.byte_mem`: the bytes of such a path.
-/

namespace SocketAttribution

/-! ## Pieces and bytes of a text -/

namespace Text

/-- The pieces of a text are those of the library's own cut. -/
theorem pieces_eq_splitOnP {α : Type} (isMark : α → Bool) (s : List α) :
    pieces isMark s = s.splitOnP isMark := by
  induction s with
  | nil => rfl
  | cons c rest ih =>
      obtain ⟨piece, later, behind⟩ := List.exists_cons_of_ne_nil (pieces_ne_nil isMark rest)
      rw [pieces, List.splitOnP_cons_eq_if_modifyHead, ← ih, behind]
      rfl

/-- Bytes below 128 are a text of as many characters. -/
theorem Utf8.decodeFrom_of_ascii {bytes : List UInt8} (ascii : ∀ b ∈ bytes, b.toNat < 0x80)
    (place : Nat) : decodeFrom place bytes = .ok (bytes.map fun b => Char.ofNat b.toNat) := by
  induction bytes generalizing place with
  | nil => rw [decodeFrom]; rfl
  | cons b rest ih =>
      have single : lead? b = some ⟨b.toNat, 0, 0x80, 0xBF⟩ := if_pos (ascii b List.mem_cons_self)
      rw [decodeFrom, single]
      dsimp only [gather]
      rw [ih fun c mem => ascii c (List.mem_cons_of_mem _ mem)]
      rfl

end Text

namespace Path

variable {p q : Path} {names : List (List UInt8)} {front back rest last : List UInt8}

/-- The pieces of a path are what its slashes cut it into. -/
theorem pieces_eq_splitOn (p : Path) : p.pieces = p.bytes.splitOn slash :=
  Text.pieces_eq_splitOnP _ _

/-! ## What is said -/

/-- The pieces between slashes that say something: all but empty ones and single dots. -/
def said (bytes : List UInt8) : List (List UInt8) :=
  (bytes.splitOn slash).filter fun piece => piece ≠ [] ∧ piece ≠ dot

/-- The path starts with a slash, and what it says is these names. -/
def Reads (p : Path) (names : List (List UInt8)) : Prop :=
  p.bytes.head? = some slash ∧ said p.bytes = names

instance (p : Path) (names : List (List UInt8)) : Decidable (p.Reads names) :=
  inferInstanceAs (Decidable (_ ∧ _))

@[simp] theorem said_nil : said [] = [] := rfl

@[simp] theorem said_dot : said dot = [] := by decide

/-- **What is said in front of a slash and behind it.** -/
theorem said_append (front back : List UInt8) :
    said (front ++ slash :: back) = said front ++ said back := by
  rw [said, List.splitOn_append_cons_self, List.filter_append]
  rfl

@[simp] theorem said_slash_cons (back : List UInt8) : said (slash :: back) = said back :=
  said_append [] back

/-- What stands behind a whole piece is said by itself. -/
theorem said_append_of_ends (ends : back = [] ∨ back.head? = some slash) :
    said (front ++ back) = said front ++ said back := by
  rcases ends with rfl | starts
  · simp
  · obtain ⟨rest, rfl⟩ := List.head?_eq_some_iff.1 starts
    rw [said_append, said_slash_cons]

/-- A single piece that is neither empty nor a dot says itself. -/
theorem said_piece {piece : List UInt8} (clean : slash ∉ piece) (told : piece ≠ [] ∧ piece ≠ dot) :
    said piece = [piece] := by
  rw [said, List.splitOn_eq_singleton clean, List.filter_cons_of_pos (by simpa using told)]
  rfl

/-- **The spellings of a place are known by what they say.** -/
theorem spells_iff_reads : p.Spells names ↔ p.Reads names := by
  have said_of {segments : List (List UInt8)} (clean : ∀ segment ∈ segments, slash ∉ segment)
      (whole : p.bytes = segments.flatMap (slash :: ·)) :
      said p.bytes = segments.filter fun segment => segment ≠ [] ∧ segment ≠ dot := by
    rw [said, ← pieces_eq_splitOn, pieces_of_segments clean whole]
    rfl
  have absolute_iff : p.isAbsolute = true ↔ p.bytes.head? = some slash := beq_iff_eq
  constructor
  · rintro ⟨segments, some, clean, whole, named⟩
    refine ⟨absolute_iff.1 (exists_segments_iff.2 ⟨segments, some, clean, whole⟩), ?_⟩
    rw [said_of clean whole, named]
  · rintro ⟨starts, named⟩
    obtain ⟨segments, some, clean, whole⟩ := exists_segments_iff.1 (absolute_iff.2 starts)
    exact ⟨segments, some, clean, whole, (said_of clean whole).symm.trans named⟩

/-! ## Padding -/

/-- The second path is the first with something put in that says nothing. -/
inductive Padded : Path → Path → Prop where
  /-- A slash is repeated. -/
  | slash (front back : List UInt8) :
    Padded ⟨front ++ slash :: back⟩ ⟨front ++ slash :: slash :: back⟩
  /-- A dot of its own is put behind a slash of its own. -/
  | here (front back : List UInt8) (ends : back = [] ∨ back.head? = some slash) :
    Padded ⟨front ++ back⟩ ⟨front ++ slash :: (dot ++ back)⟩
  /-- A slash is put at the end. -/
  | trailing (front : List UInt8) : Padded ⟨front⟩ ⟨front ++ [slash]⟩

/-- Padding says nothing. -/
theorem Padded.said_eq (padded : Padded p q) : said q.bytes = said p.bytes := by
  cases padded with
  | slash front back => simp [said_append]
  | here front back ends =>
      rw [said_append, said_append_of_ends ends, said_dot, List.nil_append,
        said_append_of_ends ends]
  | trailing front => simp [said_append]

/-- Only the empty path starts in another way once it is padded. -/
theorem Padded.head?_eq (padded : Padded p q) (some : p.bytes ≠ []) :
    q.bytes.head? = p.bytes.head? := by
  cases padded with
  | slash front back => cases front <;> rfl
  | here front back ends =>
      cases front with
      | nil =>
          -- Nothing stands in front, so that the path starts with what is behind.
          rcases ends with rfl | starts
          · exact absurd rfl some
          · exact starts.symm
      | cons b front => rfl
  | trailing front =>
      cases front with
      | nil => exact absurd rfl some
      | cons b front => rfl

/-- A padded path says certain names if and only if it did before. -/
theorem Padded.reads_iff (padded : Padded p q) (some : names ≠ []) :
    q.Reads names ↔ p.Reads names := by
  by_cases empty : p.bytes = []
  · -- The empty path says nothing, whatever it is padded with.
    have nothing : said p.bytes = [] := by rw [empty]; rfl
    constructor
    · rintro ⟨-, named⟩
      rw [padded.said_eq, nothing] at named
      exact absurd named.symm some
    · rintro ⟨-, named⟩
      rw [nothing] at named
      exact absurd named.symm some
  · rw [Reads, Reads, padded.head?_eq empty, padded.said_eq]

/-- **Padding, put in or left out any number of times, changes nothing.** -/
theorem reads_iff_of_respelled (respelled : Relation.EqvGen Padded p q) (some : names ≠ []) :
    q.Reads names ↔ p.Reads names := by
  induction respelled with
  | rel p q padded => exact padded.reads_iff some
  | refl p => exact Iff.rfl
  | symm p q _ ih => exact ih.symm
  | trans p q r _ _ first second => exact second.trans first

/-! ## What stands behind a path -/

/-- Every row of bytes is the rest of a piece and, from the first slash on, what is behind it. -/
theorem exists_piece_append (rest : List UInt8) : ∃ piece behind, rest = piece ++ behind ∧
    slash ∉ piece ∧ (behind = [] ∨ behind.head? = some slash) := by
  induction rest with
  | nil => exact ⟨[], [], rfl, List.not_mem_nil, .inl rfl⟩
  | cons b rest ih =>
      by_cases marked : b = slash
      · exact ⟨[], b :: rest, rfl, List.not_mem_nil, .inr (congrArg some marked)⟩
      · obtain ⟨piece, behind, rfl, clean, ends⟩ := ih
        exact ⟨b :: piece, behind, rfl, List.not_mem_cons_of_ne_of_not_mem (Ne.symm marked) clean,
          ends⟩

/-- **What may stand behind a path that says certain names** is nothing, or a slash and what says
nothing behind it. Anything else makes the last name another one or adds a name. -/
theorem said_extended_iff (clean : slash ∉ last) (proper : ¬ last <+: dot) :
    said (front ++ slash :: (last ++ rest)) = said front ++ [last] ↔
      (rest = [] ∨ rest.head? = some slash) ∧ said rest = [] := by
  obtain ⟨piece, behind, rfl, unmarked, ends⟩ := exists_piece_append rest
  have told : last ++ piece ≠ [] ∧ last ++ piece ≠ dot := by
    constructor
    · intro nothing
      rw [(List.append_eq_nil_iff.1 nothing).1] at proper
      exact proper List.nil_prefix
    · intro same
      exact proper ⟨piece, same⟩
  have whole : slash ∉ last ++ piece := fun mem => (List.mem_append.1 mem).elim clean unmarked
  have reach : said (last ++ (piece ++ behind)) = (last ++ piece) :: said behind := by
    rw [← List.append_assoc, said_append_of_ends ends, said_piece whole told]
    rfl
  rw [said_append, reach, List.append_right_inj, List.cons.injEq, List.append_right_eq_self]
  constructor
  · rintro ⟨rfl, silent⟩
    exact ⟨ends, silent⟩
  · rintro ⟨starts, silent⟩
    cases piece with
    | nil => exact ⟨rfl, silent⟩
    | cons b piece =>
        -- The rest would start with a byte of the last name's piece.
        rcases starts with nothing | starts
        · cases nothing
        · exact absurd (Option.some.inj starts ▸ List.mem_cons_self) unmarked

/-! ## Bytes -/

/-- **The bytes of a path that says certain names** are slashes, dots and those of the names. -/
theorem Reads.byte_mem (reads : p.Reads names) {b : UInt8} (mem : b ∈ p.bytes) :
    b = slash ∨ b ∈ dot ∨ ∃ name ∈ names, b ∈ name := by
  obtain ⟨segments, -, -, whole, rfl⟩ := spells_iff_reads.2 reads
  rw [whole] at mem
  obtain ⟨segment, listed, mem⟩ := List.mem_flatMap.1 mem
  rcases List.mem_cons.1 mem with rfl | mem
  · exact .inl rfl
  by_cases silent : segment = [] ∨ segment = dot
  · rcases silent with rfl | rfl
    · cases mem
    · exact .inr (.inl mem)
  · exact .inr (.inr ⟨segment, List.mem_filter.2 ⟨listed, decide_eq_true (not_or.1 silent)⟩, mem⟩)

/-- A path of bytes below 128 is text. -/
theorem text?_ne_none_of_ascii (ascii : ∀ b ∈ p.bytes, b.toNat < 0x80) : p.text? ≠ none := by
  rw [text?, Text.Utf8.decode, Text.Utf8.decodeFrom_of_ascii ascii]
  exact nofun

end Path

end SocketAttribution
