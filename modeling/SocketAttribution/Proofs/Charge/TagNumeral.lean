import SocketAttribution.CommandLine.Option
import SocketAttribution.Proofs.Text.Numeral

/-!
# The grammar of tags

A tag is written in decimal digits or, behind `0x`, in hexadecimal ones, and a plus sign may stand
in front of the digits. Every text is either such a spelling of a number of 32 bits or has one fault
to be named, which is the first that is met from left to right.

## Main definitions

* `SpellsTag`: a text spells a number.
* `TagFault`: what is wrong with a text that spells no tag.

## Main statements

* `classified_readTag`: which texts are tags, and what the others are told.
* `readTag_empty_iff`, `readTag_of_sign`: texts without digits, and with a sign in their place.
* `readTag_toString`, `readTag_tagText`: both renderings of a tag read back.
* `readTag_grammar`: **all of it in one**.
-/

namespace SocketAttribution

open Text

variable {raw : String} {text rest : List Char} {n : ℕ} {tag : UInt32} {fault : NumeralError}

/-- A text spells a number: as a decimal numeral, or as a hexadecimal one behind `0x`. -/
inductive SpellsTag : List Char → ℕ → Prop
  | decimal {text : List Char} {n : ℕ} : Unsigned 10 text n → SpellsTag text n
  | hexadecimal {rest : List Char} {n : ℕ} : Unsigned 16 rest n → SpellsTag ('0' :: 'x' :: rest) n

/-- What is wrong with a text that spells no number of 32 bits. Behind `0x` a hexadecimal numeral
is wanted, and elsewhere a decimal one. -/
inductive TagFault : List Char → NumeralError → Prop
  | hexadecimal {rest : List Char} {fault : NumeralError} : UnsignedFault 16 (2 ^ 32) rest fault →
      TagFault ('0' :: 'x' :: rest) fault
  | decimal {text : List Char} {fault : NumeralError} : (∀ rest, text ≠ '0' :: 'x' :: rest) →
      UnsignedFault 10 (2 ^ 32) text fault → TagFault text fault

/-! ## Numbers -/

theorem tagNumber_of_mark : tagNumber ('0' :: 'x' :: rest) = readUnsigned 16 (2 ^ 32) rest := rfl

theorem tagNumber_of_unmarked (unmarked : ∀ rest, text ≠ '0' :: 'x' :: rest) :
    tagNumber text = readUnsigned 10 (2 ^ 32) text := by
  unfold tagNumber
  split
  · exact absurd rfl (unmarked _)
  · rfl

/-- A text with the mark of the other radix is no decimal numeral. -/
theorem not_unsigned_of_mark : ¬ Unsigned 10 ('0' :: 'x' :: rest) n := by
  rintro ⟨digits, -, rfl | same, denotes⟩
  · obtain ⟨value, digit⟩ := denotes.isDigit (List.mem_cons_of_mem _ List.mem_cons_self)
    rw [← digitValue?_eq_some_iff (by decide), digitValue?_eq_some_iff_toNat] at digit
    have letter : 'x'.toNat = 120 := rfl
    omega
  · cases same

/-- **What is read is the number that a text spells**, and where nothing is read the fault is what
is wrong with the text. -/
theorem classified_tagNumber (text : List Char) :
    Classified (tagNumber text) (fun n => SpellsTag text n ∧ n < 2 ^ 32) (TagFault text) := by
  have numeral (radix : ℕ) (small : radix ≤ 16) (s : List Char) :
      Classified (readUnsigned radix (2 ^ 32) s) (fun n => Unsigned radix s n ∧ n < 2 ^ 32)
        (UnsignedFault radix (2 ^ 32) s) := classified_readUnsigned small (by decide) s
  refine ⟨?good, ?bad, ?either⟩
  case good =>
    rintro n ⟨unsigned | unsigned, less⟩
    · have unmarked : ∀ rest, text ≠ '0' :: 'x' :: rest := by
        rintro rest rfl
        exact not_unsigned_of_mark unsigned
      rw [tagNumber_of_unmarked unmarked]
      exact (numeral 10 (by decide) text).good n ⟨unsigned, less⟩
    · rw [tagNumber_of_mark]
      exact (numeral 16 (by decide) _).good n ⟨unsigned, less⟩
  case bad =>
    rintro fault (wrong | ⟨unmarked, wrong⟩)
    · rw [tagNumber_of_mark]
      exact (numeral 16 (by decide) _).bad fault wrong
    · rw [tagNumber_of_unmarked unmarked]
      exact (numeral 10 (by decide) text).bad fault wrong
  case either =>
    by_cases marked : ∃ rest, text = '0' :: 'x' :: rest
    · obtain ⟨rest, rfl⟩ := marked
      exact (numeral 16 (by decide) rest).either.imp
        (fun ⟨n, unsigned, less⟩ => ⟨n, .hexadecimal unsigned, less⟩)
        fun ⟨fault, wrong⟩ => ⟨fault, .hexadecimal wrong⟩
    · exact (numeral 10 (by decide) text).either.imp
        (fun ⟨n, unsigned, less⟩ => ⟨n, .decimal unsigned, less⟩)
        fun ⟨fault, wrong⟩ => ⟨fault, .decimal (not_exists.1 marked) wrong⟩

/-! ## Tags -/

/-- **The tags are the spellings of the numbers of 32 bits**, each stands for its number, and all
other texts are told what is wrong with them. -/
theorem classified_readTag (raw : String) :
    Classified (readTag raw) (fun tag => SpellsTag raw.toList tag.toNat)
      (fun e => e.raw = raw ∧ TagFault raw.toList e.fault) := by
  have number := classified_tagNumber raw.toList
  refine ⟨?good, ?bad, ?either⟩
  case good =>
    intro tag spells
    rw [readTag, number.good _ ⟨spells, tag.toNat_lt⟩]
    exact congrArg Except.ok UInt32.ofNat_toNat
  case bad =>
    rintro ⟨named, fault⟩ ⟨same, wrong⟩
    rw [readTag, number.bad fault wrong, ← show named = raw from same]
  case either =>
    rcases number.either with ⟨n, spells, less⟩ | ⟨fault, wrong⟩
    · have whole : (UInt32.ofNat n).toNat = n := UInt32.toNat_ofNat_of_lt' less
      exact .inl ⟨UInt32.ofNat n, whole.symm ▸ spells⟩
    · exact .inr ⟨⟨raw, fault⟩, rfl, wrong⟩

/-- A text is found empty if there is nothing in it, or nothing behind the mark of the radix. -/
theorem readTag_empty_iff : readTag raw = .error ⟨raw, .empty⟩ ↔ raw = "" ∨ raw = "0x" := by
  have empty_iff {radix : ℕ} {s : List Char} (h : UnsignedFault radix (2 ^ 32) s .empty) :
      s = [] := by
    rcases h with - | - | ⟨-, ⟨-⟩⟩ | ⟨⟨-⟩⟩
    rfl
  rw [(classified_readTag raw).error_iff, and_iff_right rfl]
  constructor
  · intro wrong
    rw [← String.toList_inj, ← String.toList_inj]
    generalize raw.toList = text at wrong
    rcases wrong with wrong | ⟨-, wrong⟩
    · exact .inr (empty_iff wrong ▸ rfl)
    · exact .inl (empty_iff wrong)
  · rintro (rfl | rfl)
    · exact .decimal nofun .empty
    · exact .hexadecimal .empty

/-- **A sign in the place of a digit is an invalid digit**: a sign alone, and a minus sign in front
of anything. -/
theorem readTag_of_sign
    (sign : raw.toList ∈ [['+'], '-' :: rest, ['0', 'x', '+'], '0' :: 'x' :: '-' :: rest]) :
    readTag raw = .error ⟨raw, .invalidDigit⟩ := by
  rw [(classified_readTag raw).error_iff, and_iff_right rfl]
  show TagFault raw.toList .invalidDigit
  generalize raw.toList = text at sign
  simp only [List.mem_cons, List.not_mem_nil, or_false] at sign
  rcases sign with rfl | rfl | rfl | rfl
  · exact .decimal nofun .loneSign
  · exact .decimal nofun (unsignedFault_of_minus (by decide) (by decide))
  · exact .hexadecimal .loneSign
  · exact .hexadecimal (unsignedFault_of_minus (by decide) (by decide))

/-! ## Renderings -/

theorem tagText_eq (tag : UInt32) :
    tagText tag = "0x" ++ String.ofList (Nat.toDigits 16 tag.toNat) := by
  rw [tagText, hexText, digitsIn_eq_toDigits (by decide) (by decide), ← String.toList_inj,
    String.toList_append, String.toList_ofList, String.toList_ofList, String.toList_ofList]
  rfl

/-- **The decimal rendering of a tag reads back.** -/
theorem readTag_toString (tag : UInt32) : readTag (toString tag) = .ok tag := by
  show readTag (toString tag.toNat) = .ok tag
  rw [← decimalText_eq_toString, (classified_readTag _).ok_iff, decimalText, String.toList_ofList]
  exact .decimal (unsigned_digitsIn (by decide) (by decide) _)

/-- **The rendering of a tag in logs reads back.** -/
theorem readTag_tagText (tag : UInt32) : readTag (tagText tag) = .ok tag := by
  rw [(classified_readTag _).ok_iff, tagText, hexText, String.toList_ofList]
  exact .hexadecimal (unsigned_digitsIn (by decide) (by decide) _)

/-! ## The grammar -/

/-- **Reading of tags accepts exactly their grammar and undoes both renderings.** The texts that are
read are the spellings of the numbers below `2 ^ 32`, and the number is what is read. Any other text
is refused, under its own name, with the first fault from left to right; in particular it is found
empty if nothing stands behind the mark of the radix or in its place, and a sign alone or a minus
sign in front is an invalid digit. A tag reads back from its decimal rendering, and from the
rendering in logs, which has the lower-case hexadecimal digits behind `0x`. -/
theorem readTag_grammar (raw : String) :
    (∀ n, (∃ tag, readTag raw = .ok tag ∧ tag.toNat = n) ↔ SpellsTag raw.toList n ∧ n < 2 ^ 32) ∧
    (∀ e, readTag raw = .error e ↔ e.raw = raw ∧ TagFault raw.toList e.fault) ∧
    (readTag raw = .error ⟨raw, .empty⟩ ↔ raw = "" ∨ raw = "0x") ∧
    (∀ rest, raw.toList ∈ [['+'], '-' :: rest, ['0', 'x', '+'], '0' :: 'x' :: '-' :: rest] →
      readTag raw = .error ⟨raw, .invalidDigit⟩) ∧
    ∀ tag : UInt32, readTag (toString tag) = .ok tag ∧
      tagText tag = "0x" ++ String.ofList (Nat.toDigits 16 tag.toNat) ∧
      readTag (tagText tag) = .ok tag := by
  refine ⟨fun n => ?_, fun e => (classified_readTag raw).error_iff, readTag_empty_iff,
    fun rest => readTag_of_sign, fun tag => ⟨readTag_toString tag, tagText_eq tag,
      readTag_tagText tag⟩⟩
  constructor
  · rintro ⟨tag, read, rfl⟩
    exact ⟨(classified_readTag raw).ok_iff.1 read, tag.toNat_lt⟩
  · rintro ⟨spells, less⟩
    have whole : (UInt32.ofNat n).toNat = n := UInt32.toNat_ofNat_of_lt' less
    exact ⟨UInt32.ofNat n, (classified_readTag raw).good _ (whole.symm ▸ spells), whole⟩

/-- The largest tag in both radices, texts that are too large before and after their bad digit, and
a minus sign. -/
theorem readTag_grammar_edges :
    readTag "+004294967295" = .ok 4294967295 ∧ readTag "0x+0fFfFfFfF" = .ok 4294967295 ∧
      readTag "4294967296x" = .error ⟨"4294967296x", .tooLarge⟩ ∧
      readTag "429496729x6" = .error ⟨"429496729x6", .invalidDigit⟩ ∧
      readTag "0x-0" = .error ⟨"0x-0", .invalidDigit⟩ :=
  ⟨by decide, by decide, by decide, by decide, (readTag_grammar "0x-0").2.2.2.1 ['0'] (by decide)⟩

end SocketAttribution
