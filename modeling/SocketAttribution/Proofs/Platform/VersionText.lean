import SocketAttribution.Proofs.Platform.Release

/-!
# Texts of versions

A version is written as its three numbers with points between them. That text reads back, and what
stands around it does not matter: blanks in front of it are trimmed, and of what stands behind it
the last component keeps all but its digits. So makers may add to the version of a kernel what they
like, as long as it does not start with a digit.

## Main definitions

* `Dotted`: texts of digits and points, in which no blank is met.

## Main statements

* `Version.text_eq`: the text of a version, put together from its numbers.
* `Version.ofRelease_text_append`: a version reads back from its text between blanks and a suffix.
* `Version.ofRelease_two`: a release of two components has the sublevel zero.
* `Version.text_injective`: different versions have different texts.
* `ReportedVersion.version_eq`: a reported version keeps all its numbers.
* `Version.text_roundTrip`: **all of it in one**.
-/

namespace SocketAttribution

open Text Release

variable {kept suffix : List Char}

/-! ## Numbers in releases -/

theorem decimal_eq_toDigits (n : ℕ) : decimal n = Nat.toDigits 10 n :=
  digitsIn_eq_toDigits (by decide) (by decide) n

theorem toList_toString (n : UInt32) : (toString n).toList = decimal n.toNat := by
  show (toString n.toNat).toList = _
  rw [← decimalText_eq_toString, decimalText, String.toList_ofList]

/-- A number behind a point, as characters. -/
theorem toList_pointed (front : String) (n : UInt32) :
    (front ++ toString "." ++ toString n).toList = front.toList ++ '.' :: decimal n.toNat := by
  rw [String.toList_append, String.toList_append, toList_toString, List.append_assoc]
  rfl

theorem isDigit_of_mem_decimal {n : ℕ} {c : Char} (mem : c ∈ decimal n) : c.isDigit = true := by
  rw [decimal_eq_toDigits] at mem
  exact Nat.isDigit_of_mem_toDigits (by decide) (by decide) mem

theorem point_not_mem_decimal (n : ℕ) : '.' ∉ decimal n := fun mem =>
  absurd (isDigit_of_mem_decimal mem) (by decide)

/-- Nothing but digits and points. -/
def Dotted (s : List Char) : Prop := ∀ c ∈ s, c.isDigit = true ∨ c = '.'

theorem dotted_decimal (n : ℕ) : Dotted (decimal n) :=
  fun _ mem => .inl (isDigit_of_mem_decimal mem)

theorem Dotted.pointed {rest : List Char} (dotted : Dotted rest) (n : ℕ) :
    Dotted (decimal n ++ '.' :: rest) := by
  intro c mem
  rw [List.mem_append, List.mem_cons] at mem
  rcases mem with number | point | behind
  · exact dotted_decimal n c number
  · exact .inr point
  · exact dotted c behind

/-- A component with a number in front, and no digit behind it, counts for the number. -/
theorem counts_decimal {comps : List (List Char)} {i : ℕ} {n : UInt32}
    (there : comps[i]? = some (decimal n.toNat ++ kept))
    (stops : ∀ c ∈ kept.head?, c.isDigit = false) : Counts comps i n := by
  refine .run there ⟨kept, rfl, fun c => isDigit_of_mem_decimal, stops⟩ ?_ ?_
  · exact fun none => absurd none (digitsIn_ne_nil 10 n.toNat)
  · rw [decimal_eq_toDigits]
    exact denotes_toDigits (by decide) n.toNat

theorem counts_decimal_alone {comps : List (List Char)} {i : ℕ} {n : UInt32}
    (there : comps[i]? = some (decimal n.toNat)) : Counts comps i n := by
  rw [← List.append_nil (decimal n.toNat)] at there
  exact counts_decimal there (by simp)

/-- A beginning of a suffix starts with no digit either. -/
theorem stops_of_isPrefix (front : kept <+: suffix)
    (stops : ∀ c ∈ suffix.head?, c.isDigit = false) : ∀ c ∈ kept.head?, c.isDigit = false := by
  obtain ⟨rest, rfl⟩ := front
  exact fun c mem => stops c (List.mem_head?_append_of_mem_head? mem)

/-- Numbers and points between them are followed by a beginning of what stands behind them. -/
theorem exists_trims_of_numbers {before core : List Char}
    (blank : ∀ c ∈ before, isBlank c = true) (some : core ≠ [])
    (dotted : Dotted core) (suffix : List Char) :
    ∃ kept, kept <+: suffix ∧ Trims (before ++ core ++ suffix) (core ++ kept) := by
  have visible : ∀ c ∈ core, isBlank c = false := by
    intro c mem
    rcases dotted c mem with digit | rfl
    · exact isBlank_of_isDigit digit
    · decide
  exact exists_trims_append blank some (fun c mem => visible c (List.mem_of_mem_head? mem))
    (fun c mem => visible c (List.mem_of_mem_getLast? mem)) suffix

namespace Version

/-- **The text of a version** is its three numbers with points between them. -/
theorem text_eq (v : Version) : v.text = s!"{v.major}.{v.minor}.{v.sub}" := by
  rw [← String.toList_inj, text, chars, String.toList_ofList]
  rw [toList_pointed, toList_pointed, toList_toString, List.append_assoc, List.cons_append]

/-- **A version reads back from its text**, with blanks in front and a suffix behind it that does
not start with a digit. -/
theorem ofRelease_text_append (v : Version) {blanks suffix : String}
    (blank : ∀ c ∈ blanks.toList, isBlank c = true)
    (stops : ∀ c ∈ suffix.toList.head?, c.isDigit = false) :
    ofRelease (blanks ++ v.text ++ suffix) = .ok v := by
  have dotted : Dotted v.chars := ((dotted_decimal _).pointed _).pointed _
  have some : v.chars ≠ [] := by simp [chars]
  obtain ⟨kept, front, trims⟩ := exists_trims_of_numbers blank some dotted suffix.toList
  have cut : CutAtPoints (v.chars ++ kept)
      [decimal v.major.toNat, decimal v.minor.toNat, decimal v.sub.toNat ++ kept] := by
    simp only [chars, List.append_assoc, List.cons_append]
    exact .three (point_not_mem_decimal _) (point_not_mem_decimal _)
  have whole : (blanks ++ v.text ++ suffix).toList = blanks.toList ++ v.chars ++ suffix.toList := by
    rw [String.toList_append, String.toList_append, text, String.toList_ofList]
  refine (ofRelease_eq_ok_iff ⟨_, whole ▸ trims, cut⟩).2 ⟨?_, ?_, ?_⟩
  · exact counts_decimal_alone rfl
  · exact counts_decimal_alone rfl
  · exact counts_decimal rfl (stops_of_isPrefix front stops)

/-- **A release of two components has the sublevel zero**, whatever stands behind them without a
point or a digit in front. -/
theorem ofRelease_two (major minor : UInt32) {suffix : String}
    (pointless : '.' ∉ suffix.toList) (stops : ∀ c ∈ suffix.toList.head?, c.isDigit = false) :
    ofRelease (s!"{major}.{minor}" ++ suffix) = .ok ⟨major, minor, 0⟩ := by
  let core := decimal major.toNat ++ '.' :: decimal minor.toNat
  have dotted : Dotted core := (dotted_decimal _).pointed _
  have some : core ≠ [] := by simp [core]
  have unspaced : ∀ c ∈ ([] : List Char), isBlank c = true := by simp
  obtain ⟨kept, front, trims⟩ := exists_trims_of_numbers unspaced some dotted suffix.toList
  have cut : CutAtPoints (core ++ kept) [decimal major.toNat, decimal minor.toNat ++ kept] := by
    simp only [core, List.append_assoc, List.cons_append]
    refine .two (point_not_mem_decimal _) fun mem => ?_
    rcases List.mem_append.1 mem with inside | behind
    · exact point_not_mem_decimal _ inside
    · exact pointless (front.subset behind)
  have whole : (s!"{major}.{minor}" ++ suffix).toList = [] ++ core ++ suffix.toList := by
    rw [String.toList_append, toList_pointed, toList_toString, List.nil_append]
  refine (ofRelease_eq_ok_iff ⟨_, whole ▸ trims, cut⟩).2 ⟨?_, ?_, ?_⟩
  · exact counts_decimal_alone rfl
  · exact counts_decimal rfl (stops_of_isPrefix front stops)
  · exact .absent (le_refl 2) rfl

/-- The text of a version reads back. -/
theorem ofRelease_text (v : Version) : ofRelease v.text = .ok v := by
  have whole : "" ++ v.text ++ "" = v.text := by rw [String.empty_append, String.append_empty]
  rw [← whole]
  exact ofRelease_text_append v (by simp) (by simp)

/-- **Different versions have different texts.** -/
theorem text_injective : Function.Injective text := by
  intro v w same
  have read := ofRelease_text w
  rw [← same, ofRelease_text, Except.ok.injEq] at read
  exact read

end Version

namespace ReportedVersion

/-- The text of a reported version is its three numbers with points between them. -/
theorem text_eq (r : ReportedVersion) : r.text = s!"{r.major}.{r.minor}.{r.patch}" := by
  have byte (n : UInt8) : toString n.toUInt32 = toString n :=
    congrArg toString (UInt8.toNat_toUInt32 n)
  have half (n : UInt16) : toString n.toUInt32 = toString n :=
    congrArg toString (UInt16.toNat_toUInt32 n)
  rw [text, Version.text_eq]
  simp only [widen, byte, half]

/-- **A reported version keeps all its numbers.** -/
theorem version_eq (r : ReportedVersion) : r.version = .ok r.widen :=
  Version.ofRelease_text r.widen

end ReportedVersion

/-- **Versions read back from their texts, and what makers add does not matter.** A version reads
back from its text with any blanks in front and any suffix behind it that starts with no digit, and
two numbers with a point between them have the sublevel zero, if there is no point in the suffix
either. So no two versions have the same text, a release that is read and then written reads as the
same version, and a version that is reported in narrower widths keeps its numbers on the way through
its text, if it is written as three numbers with points between them. -/
theorem Version.text_roundTrip :
    (∀ (v : Version) (blanks suffix : String), (∀ c ∈ blanks.toList, isBlank c = true) →
      (∀ c ∈ suffix.toList.head?, c.isDigit = false) →
        ofRelease (blanks ++ v.text ++ suffix) = .ok v) ∧
    (∀ (a b : UInt32) (suffix : String), '.' ∉ suffix.toList →
      (∀ c ∈ suffix.toList.head?, c.isDigit = false) →
        ofRelease (s!"{a}.{b}" ++ suffix) = .ok ⟨a, b, 0⟩) ∧
    (∀ v : Version, v.text = s!"{v.major}.{v.minor}.{v.sub}") ∧
    Function.Injective text ∧
    (∀ (release : String) (v : Version), ofRelease release = .ok v → ofRelease v.text = .ok v) ∧
    ∀ display : ReportedVersion → String,
      (∀ r, display r = s!"{r.major}.{r.minor}.{r.patch}") →
        ∀ r, ∃ v, ofRelease (display r) = .ok v ∧ r.version = .ok v ∧
          v.major.toNat = r.major.toNat ∧ v.minor.toNat = r.minor.toNat ∧
            v.sub.toNat = r.patch.toNat := by
  refine ⟨?suffix, ?two, text_eq, text_injective, ?again, ?reported⟩
  case suffix => exact fun v blanks suffix blank stops => ofRelease_text_append v blank stops
  case two => exact fun a b suffix pointless stops => ofRelease_two a b pointless stops
  case again => exact fun release v _ => ofRelease_text v
  case reported =>
    intro display writes r
    refine ⟨r.widen, ?_, r.version_eq, UInt8.toNat_toUInt32 _, UInt8.toNat_toUInt32 _,
      UInt16.toNat_toUInt32 _⟩
    rw [writes, ← r.text_eq]
    exact ofRelease_text r.widen

/-- A version with the largest and the least number between blanks and a suffix with points, digits
and blanks in it, two components with a suffix, and the largest reported version. -/
theorem Version.text_roundTrip_suffix :
    let v : Version := ⟨4294967295, 0, 198⟩
    let r : ReportedVersion := ⟨255, 0, 65535⟩
    (∀ c ∈ "\u3000\t".toList, isBlank c = true) ∧
    ofRelease ("\u3000\t" ++ v.text ++ "-android12.9 é+7 \n") = .ok v ∧
    ofRelease (s!"{(6 : UInt32)}.{(2 : UInt32)}" ++ "-rc1 3") = .ok ⟨6, 2, 0⟩ ∧
    ofRelease " 05.010.1x\n" = .ok ⟨5, 10, 1⟩ ∧ ofRelease (text ⟨5, 10, 1⟩) = .ok ⟨5, 10, 1⟩ ∧
    ∃ w, ofRelease s!"{r.major}.{r.minor}.{r.patch}" = .ok w ∧ r.version = .ok w ∧
      w.major.toNat = 255 ∧ w.minor.toNat = 0 ∧ w.sub.toNat = 65535 := by
  intro v r
  have blank : ∀ c ∈ "\u3000\t".toList, isBlank c = true := List.all_eq_true.1 (by decide)
  have stops {s : String} (dash : s.toList.head? = some '-') :
      ∀ c ∈ s.toList.head?, c.isDigit = false := by
    rw [dash]
    rintro c ⟨⟩
    rfl
  have read : ofRelease " 05.010.1x\n" = .ok ⟨5, 10, 1⟩ := by decide
  obtain ⟨suffix, two, -, -, again, reported⟩ := text_roundTrip
  exact ⟨blank, suffix v "\u3000\t" "-android12.9 é+7 \n" blank (stops (by decide)),
    two 6 2 "-rc1 3" (by decide) (stops (by decide)), read, again _ _ read,
    reported _ (fun _ => rfl) r⟩

end SocketAttribution
