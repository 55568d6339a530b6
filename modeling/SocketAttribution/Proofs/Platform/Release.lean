import Mathlib.Tactic.SplitIfs
import SocketAttribution.Platform.Release
import SocketAttribution.Proofs.Text.Numeral
import SocketAttribution.Proofs.Text.Trim

/-!
# The grammar of kernel releases

A release is trimmed and cut at its first two points, into at most three components. The row of
digits that a component begins with is what counts of it. The components are gone through from left
to right, and the first one that is at fault decides what is told.

## Main definitions

* `Release.CutAtPoints`, `Release.Components`: the components of a release.
* `Release.BeginsWith`: the row of digits in front of a component.
* `Release.Counts`, `Release.Offends`: a component that counts for a number, and one at fault.

## Main statements

* `Release.components_unique`: every release has its components, and no others.
* `Release.classified_reading`: what one component comes to.
* `Release.classified_inOrder`: what three numbers in a row come to.
* `Version.ofRelease_eq_readings`: a release is the three readings of its components in a row.
* `Version.ofRelease_eq_ok_iff`, `Version.ofRelease_eq_error_iff`: which releases are read, and
  which component decides if one is not.
* `Version.ofRelease_grammar`: **what releases are read as and what other texts are told**.
-/

namespace SocketAttribution

open Text

namespace Release

variable {s run rest component : List Char} {comps : List (List Char)}

/-! ## Components -/

/-- The pieces of a text that is cut at its first two points. Only the last of three pieces may have
points in it. -/
inductive CutAtPoints : List Char → List (List Char) → Prop
  | one {a : List Char} : '.' ∉ a → CutAtPoints a [a]
  | two {a b : List Char} : '.' ∉ a → '.' ∉ b → CutAtPoints (a ++ '.' :: b) [a, b]
  | three {a b c : List Char} : '.' ∉ a → '.' ∉ b →
      CutAtPoints (a ++ '.' :: (b ++ '.' :: c)) [a, b, c]

/-- The components of a release: what is left of it without the blanks at its ends, cut at its first
two points. -/
def Components (s : List Char) (comps : List (List Char)) : Prop :=
  ∃ t, Trims s t ∧ CutAtPoints t comps

theorem splitAtPoint_of_not_mem (none : '.' ∉ s) : splitAtPoint s = (s, .none) := by
  induction s with
  | nil => rfl
  | cons c s ih =>
      rw [List.mem_cons, not_or] at none
      rw [splitAtPoint, if_neg (Ne.symm none.1), ih none.2]

theorem splitAtPoint_append (none : '.' ∉ s) :
    splitAtPoint (s ++ '.' :: rest) = (s, some rest) := by
  induction s with
  | nil => rfl
  | cons c s ih =>
      rw [List.mem_cons, not_or] at none
      rw [List.cons_append, splitAtPoint, if_neg (Ne.symm none.1), ih none.2]

/-- The pieces of a text, taken off one by one. -/
def parts (s : List Char) : List (List Char) :=
  match splitAtPoint s with
  | (a, none) => [a]
  | (a, some rest) =>
    match splitAtPoint rest with
    | (b, none) => [a, b]
    | (b, some c) => [a, b, c]

theorem parts_of_one (none : '.' ∉ s) : parts s = [s] := by
  simp only [parts, splitAtPoint_of_not_mem none]

theorem parts_of_two {a b : List Char} (none : '.' ∉ a) (none' : '.' ∉ b) :
    parts (a ++ '.' :: b) = [a, b] := by
  simp only [parts, splitAtPoint_append none, splitAtPoint_of_not_mem none']

theorem parts_of_three {a b c : List Char} (none : '.' ∉ a) (none' : '.' ∉ b) :
    parts (a ++ '.' :: (b ++ '.' :: c)) = [a, b, c] := by
  simp only [parts, splitAtPoint_append none, splitAtPoint_append none']

theorem cutAtPoints_parts (s : List Char) : CutAtPoints s (parts s) := by
  by_cases mem : '.' ∈ s
  · obtain ⟨a, rest, rfl, none⟩ := List.eq_append_cons_of_mem mem
    by_cases mem' : '.' ∈ rest
    · obtain ⟨b, c, rfl, none'⟩ := List.eq_append_cons_of_mem mem'
      rw [parts_of_three none none']
      exact .three none none'
    · rw [parts_of_two none mem']
      exact .two none mem'
  · rw [parts_of_one mem]
    exact .one mem

/-- **A text is cut at its first two points in one way only.** -/
theorem cutAtPoints_iff : CutAtPoints s comps ↔ comps = parts s := by
  constructor
  · rintro (none | ⟨none, none'⟩ | ⟨none, none'⟩)
    · exact (parts_of_one none).symm
    · exact (parts_of_two none none').symm
    · exact (parts_of_three none none').symm
  · rintro rfl
    exact cutAtPoints_parts s

theorem components_iff : Components s comps ↔ comps = parts (trim s) := by
  constructor
  · rintro ⟨t, trims, cut⟩
    rw [← trims_iff.1 trims]
    exact cutAtPoints_iff.1 cut
  · rintro rfl
    exact ⟨trim s, trims_trim s, cutAtPoints_iff.2 rfl⟩

/-- **Every release has its components, and no others.** -/
theorem components_unique (s : List Char) : ∃! comps, Components s comps :=
  ⟨parts (trim s), components_iff.2 rfl, fun _ => components_iff.1⟩

/-! ## One component -/

/-- A component begins with these digits, and no digit follows them. -/
def BeginsWith (component run : List Char) : Prop :=
  ∃ rest, component = run ++ rest ∧ (∀ c ∈ run, c.isDigit = true) ∧
    ∀ c ∈ rest.head?, c.isDigit = false

theorem BeginsWith.isDigit (h : BeginsWith component run) : ∀ c ∈ run, c.isDigit = true := by
  obtain ⟨rest, -, inside, -⟩ := h
  exact inside

theorem leadingDigits_eq (component : List Char) :
    leadingDigits component = component.takeWhile Char.isDigit := rfl

theorem beginsWith_leadingDigits (component : List Char) :
    BeginsWith component (leadingDigits component) := by
  refine ⟨component.dropWhile Char.isDigit, List.takeWhile_append_dropWhile.symm,
    fun c mem => List.mem_takeWhile_imp mem, fun c starts => ?_⟩
  have first := List.head?_dropWhile_not Char.isDigit component
  rw [starts] at first
  exact first

theorem BeginsWith.leadingDigits_eq_run (h : BeginsWith component run) :
    leadingDigits component = run := by
  obtain ⟨rest, rfl, inside, boundary⟩ := h
  have stop : rest.takeWhile Char.isDigit = [] := by
    rcases rest with - | ⟨c, rest⟩
    · rfl
    · exact List.takeWhile_cons_of_neg (by simpa using boundary c rfl)
  rw [leadingDigits_eq, List.takeWhile_append_of_pos inside, stop, List.append_nil]

/-- A row of decimal digits denotes a number. -/
theorem exists_denotes (inside : ∀ c ∈ run, c.isDigit = true) : ∃ n, Denotes 10 run n := by
  induction run using List.reverseRecOn with
  | nil => exact ⟨0, denotes_nil_iff.2 rfl⟩
  | append_singleton front c ih =>
      obtain ⟨m, before⟩ := ih fun d mem => inside d (List.mem_append_left _ mem)
      obtain ⟨value, digit⟩ : ∃ value, IsDigit 10 c value :=
        isDigit_iff.1 (inside c (List.mem_append_right _ (List.mem_singleton_self c)))
      exact ⟨_, denotes_concat_iff.2 ⟨m, value, before, digit, rfl⟩⟩

theorem readComponent_of_nil {missing : Except ReleaseError UInt32}
    (h : BeginsWith component []) : readComponent missing component = missing := by
  rw [readComponent, h.leadingDigits_eq_run]

theorem readComponent_of_denotes {missing : Except ReleaseError UInt32} {n : ℕ}
    (h : BeginsWith component run) (some : run ≠ []) (denotes : Denotes 10 run n) :
    readComponent missing component =
      if n < 2 ^ 32 then .ok (UInt32.ofNat n)
      else .error (.outOfRange (String.ofList run) .tooLarge) := by
  obtain ⟨c, more, rfl⟩ := List.exists_cons_of_ne_nil some
  have size : UInt32.size = 2 ^ 32 := rfl
  unfold readComponent
  rw [h.leadingDigits_eq_run]
  dsimp only
  rw [readUnsigned_bare some (denotes.bare (by decide)), size]
  split_ifs with less
  · rw [denotes.readDigits_eq (by decide) less]
  · rw [denotes.readDigits_eq_of_le (by decide) (by decide) (Nat.not_lt.1 less)]

/-- A component counts for a number: the digits that it begins with denote it. The third one counts
for zero if there is none, or if it begins with no digit. -/
inductive Counts (comps : List (List Char)) : ℕ → UInt32 → Prop
  | absent {i : ℕ} : 2 ≤ i → comps[i]? = none → Counts comps i 0
  | run {i : ℕ} {component run : List Char} {n : UInt32} : comps[i]? = some component →
      BeginsWith component run → (run = [] → 2 ≤ i) → Denotes 10 run n.toNat → Counts comps i n

/-- A component of a release is at fault: one of the first two that is missing or begins with no
digit, or any whose digits denote no number of 32 bits. -/
inductive Offends (release : String) (comps : List (List Char)) : ℕ → ReleaseError → Prop
  | missing {i : ℕ} : i < 2 → comps[i]? = none → Offends release comps i (.invalid release)
  | digitless {i : ℕ} {component : List Char} : i < 2 → comps[i]? = some component →
      BeginsWith component [] → Offends release comps i (.invalid release)
  | tooLarge {i : ℕ} {component run : List Char} {n : ℕ} : comps[i]? = some component →
      BeginsWith component run → Denotes 10 run n → 2 ^ 32 ≤ n →
        Offends release comps i (.outOfRange (String.ofList run) .tooLarge)

/-- What a component is read as. A missing one is read like one without text. -/
def reading (release : String) (comps : List (List Char)) (i : ℕ) : Except ReleaseError UInt32 :=
  readComponent (if i < 2 then .error (.invalid release) else .ok 0) (comps[i]?.getD [])

variable {release : String} {i : ℕ} {n : UInt32} {e : ReleaseError}

theorem beginsWith_nil : BeginsWith [] [] := ⟨[], rfl, by simp, by simp⟩

theorem Counts.reading_eq (h : Counts comps i n) : reading release comps i = .ok n := by
  rcases h with ⟨third, none⟩ | ⟨there, begins, third, denotes⟩
  · rw [reading, none, Option.getD_none, readComponent_of_nil beginsWith_nil,
      if_neg (Nat.not_lt.2 third)]
  · rename_i run
    rw [reading, there, Option.getD_some]
    rcases eq_or_ne run [] with rfl | some
    · have zero : n = 0 := UInt32.toNat_inj.1 (denotes_nil_iff.1 denotes)
      rw [readComponent_of_nil begins, if_neg (Nat.not_lt.2 (third rfl)), zero]
    · rw [readComponent_of_denotes begins some denotes, if_pos n.toNat_lt, UInt32.ofNat_toNat]

theorem Offends.reading_eq (h : Offends release comps i e) :
    reading release comps i = .error e := by
  rcases h with ⟨needed, none⟩ | ⟨needed, there, begins⟩ | ⟨there, begins, denotes, le⟩
  · rw [reading, none, Option.getD_none, readComponent_of_nil beginsWith_nil, if_pos needed]
  · rw [reading, there, Option.getD_some, readComponent_of_nil begins, if_pos needed]
  · rename_i run m
    have some : run ≠ [] := by
      rintro rfl
      rw [denotes_nil_iff.1 denotes] at le
      exact absurd le (by decide)
    rw [reading, there, Option.getD_some, readComponent_of_denotes begins some denotes,
      if_neg (Nat.not_lt.2 le)]

/-- **Every component counts for a number or is at fault.** -/
theorem counts_or_offends (release : String) (comps : List (List Char)) (i : ℕ) :
    (∃ n, Counts comps i n) ∨ ∃ e, Offends release comps i e := by
  rcases at_i : comps[i]? with - | component
  · rcases Nat.lt_or_ge i 2 with needed | third
    · exact .inr ⟨_, .missing needed at_i⟩
    · exact .inl ⟨0, .absent third at_i⟩
  · have begins := beginsWith_leadingDigits component
    obtain ⟨n, denotes⟩ := exists_denotes begins.isDigit
    by_cases digitless : leadingDigits component = [] ∧ i < 2
    · exact .inr ⟨_, .digitless digitless.2 at_i (digitless.1 ▸ begins)⟩
    · rcases Nat.lt_or_ge n (2 ^ 32) with less | le
      · refine .inl ⟨UInt32.ofNat n, .run at_i begins (fun none => ?_) ?_⟩
        · exact Nat.not_lt.1 fun needed => digitless ⟨none, needed⟩
        · rwa [UInt32.toNat_ofNat_of_lt' less]
      · exact .inr ⟨_, .tooLarge at_i begins denotes le⟩

/-- **A component is read as the number that it counts for**, and where it is not read the fault is
its own. -/
theorem classified_reading (release : String) (comps : List (List Char)) (i : ℕ) :
    Classified (reading release comps i) (Counts comps i) (Offends release comps i) where
  good _ counts := counts.reading_eq
  bad _ offends := offends.reading_eq
  either := counts_or_offends release comps i

/-! ## Three components in a row -/

/-- The version of three numbers that are read one after the other. -/
def inOrder (read : ℕ → Except ReleaseError UInt32) : Except ReleaseError Version := do
  let major ← read 0
  let minor ← read 1
  let sub ← read 2
  pure ⟨major, minor, sub⟩

/-- **A version is read if all three numbers are**, and otherwise the first number that is not read
decides. -/
theorem classified_inOrder (read : ℕ → Except ReleaseError UInt32) :
    Classified (inOrder read)
      (fun v => read 0 = .ok v.major ∧ read 1 = .ok v.minor ∧ read 2 = .ok v.sub)
      (fun e => ∃ i < 3, read i = .error e ∧ ∀ j < i, ∀ e', read j ≠ .error e') := by
  have unrefused {i : ℕ} {n : UInt32} (ok : read i = .ok n) (e' : ReleaseError) :
      read i ≠ .error e' := by
    rw [ok]
    nofun
  refine ⟨?good, ?bad, ?either⟩
  case good =>
    rintro ⟨major, minor, sub⟩ ⟨zeroth, first, second⟩
    rw [inOrder, zeroth, first, second]
    rfl
  case bad =>
    rintro e ⟨i, less, refused, earlier⟩
    have passes (j : ℕ) (before : j < i) : ∃ n, read j = .ok n := by
      rcases ends : read j with e' | n
      · exact absurd ends (earlier j before e')
      · exact ⟨n, rfl⟩
    obtain rfl | rfl | rfl : i = 0 ∨ i = 1 ∨ i = 2 := by omega
    · rw [inOrder, refused]
      rfl
    · obtain ⟨major, zeroth⟩ := passes 0 (by decide)
      rw [inOrder, zeroth, refused]
      rfl
    · obtain ⟨major, zeroth⟩ := passes 0 (by decide)
      obtain ⟨minor, first⟩ := passes 1 (by decide)
      rw [inOrder, zeroth, first, refused]
      rfl
  case either =>
    rcases zeroth : read 0 with e | major
    · exact .inr ⟨e, 0, by decide, zeroth, nofun⟩
    rcases first : read 1 with e | minor
    · refine .inr ⟨e, 1, by decide, first, fun j less => ?_⟩
      obtain rfl : j = 0 := by omega
      exact unrefused zeroth
    rcases second : read 2 with e | sub
    · refine .inr ⟨e, 2, by decide, second, fun j less => ?_⟩
      obtain rfl | rfl : j = 0 ∨ j = 1 := by omega
      · exact unrefused zeroth
      · exact unrefused first
    exact .inl ⟨⟨major, minor, sub⟩, rfl, rfl, rfl⟩

end Release

open Release

/-- **A release is the readings of its components in a row.** -/
theorem Version.ofRelease_eq_readings {release : String} {comps : List (List Char)}
    (parts : Components release.toList comps) :
    ofRelease release = inOrder (reading release comps) := by
  obtain ⟨t, trims, cut⟩ := parts
  unfold ofRelease
  rw [← trims_iff.1 trims]
  rcases cut with none | ⟨none, none'⟩ | ⟨none, none'⟩
  · rw [splitAtPoint_of_not_mem none]
    rfl
  · rw [splitAtPoint_append none]
    simp only [nextComponent, splitAtPoint_of_not_mem none']
    rfl
  · rw [splitAtPoint_append none]
    simp only [nextComponent, splitAtPoint_append none']
    rfl

/-- A release is read as a version if its components count for the three numbers. -/
theorem Version.ofRelease_eq_ok_iff {release : String} {comps : List (List Char)}
    (parts : Components release.toList comps) {v : Version} : ofRelease release = .ok v ↔
      Counts comps 0 v.major ∧ Counts comps 1 v.minor ∧ Counts comps 2 v.sub := by
  rw [ofRelease_eq_readings parts, (classified_inOrder _).ok_iff]
  simp only [(classified_reading release comps _).ok_iff]

/-- Otherwise the leftmost component at fault decides. -/
theorem Version.ofRelease_eq_error_iff {release : String} {comps : List (List Char)}
    (parts : Components release.toList comps) {e : ReleaseError} : ofRelease release = .error e ↔
      ∃ i < 3, Offends release comps i e ∧ ∀ j < i, ∀ e', ¬ Offends release comps j e' := by
  rw [ofRelease_eq_readings parts, (classified_inOrder _).error_iff]
  simp only [ne_eq, (classified_reading release comps _).error_iff]

/-- **Releases are read exactly by their grammar.** Every text has its components, which are what is
left between the blanks at its ends, cut at the first two points. It is read as a version exactly if
each component counts for the number of the version in its place: the first two are there and begin
with digits, a third one may be missing or begin with none and then counts for zero, and all digits
in front of a component denote a number below `2 ^ 32`. In all other cases the leftmost component
that is at fault decides what is told: that the release is invalid, if the component is missing or
begins with no digit, and otherwise that its digits are out of range. -/
theorem Version.ofRelease_grammar (release : String) :
    (∃! comps, Components release.toList comps) ∧
      ∀ comps, Components release.toList comps →
        (∀ v, ofRelease release = .ok v ↔
          Counts comps 0 v.major ∧ Counts comps 1 v.minor ∧ Counts comps 2 v.sub) ∧
        ∀ e, ofRelease release = .error e ↔
          ∃ i < 3, Offends release comps i e ∧ ∀ j < i, ∀ e', ¬ Offends release comps j e' :=
  ⟨components_unique release.toList, fun _ parts =>
    ⟨fun _ => ofRelease_eq_ok_iff parts, fun _ => ofRelease_eq_error_iff parts⟩⟩

/-- A release with blanks around it, a zero in front of a number and points behind the second one,
and a release whose first component is out of range and whose second one is missing. -/
theorem Version.ofRelease_grammar_suffix :
    let release := "\u3000 5.010-rc1.198+.b\n"
    let comps := ["5".toList, "010-rc1".toList, "198+.b".toList]
    let huge := "4294967296-x"
    (Components release.toList comps ∧ ofRelease release = .ok ⟨5, 10, 198⟩ ∧
      Counts comps 0 5 ∧ Counts comps 1 10 ∧ Counts comps 2 198) ∧
    Components huge.toList [huge.toList] ∧
      ofRelease huge = .error (.outOfRange "4294967296" .tooLarge) ∧
      ∃ i < 3, Offends huge [huge.toList] i (.outOfRange "4294967296" .tooLarge) ∧
        ∀ j < i, ∀ e', ¬ Offends huge [huge.toList] j e' := by
  intro release comps huge
  have parts : Components release.toList comps := components_iff.2 (by decide)
  have parts' : Components huge.toList [huge.toList] := components_iff.2 (by decide)
  have read : ofRelease release = .ok ⟨5, 10, 198⟩ := by decide
  have refused : ofRelease huge = .error (.outOfRange "4294967296" .tooLarge) := by decide
  exact ⟨⟨parts, read, (((ofRelease_grammar release).2 comps parts).1 ⟨5, 10, 198⟩).1 read⟩,
    parts', refused, (((ofRelease_grammar huge).2 _ parts').2 _).1 refused⟩

end SocketAttribution
