import Mathlib.Data.List.Forall2
import Mathlib.Data.List.Induction
import Mathlib.Data.Nat.Digits.Defs
import Mathlib.Tactic.IntervalCases
import Mathlib.Tactic.SplitIfs
import SocketAttribution.Text.Numeral

/-!
# What numerals denote

A row of digits denotes a number by its places. Reading goes over the digits once, with the number
read so far, and stops where that number reaches a bound. Here the one is compared with the other:
what is read is what the digits denote, and where nothing is read the fault is that of the first
digit at which reading cannot go on.

## Main definitions

* `Classified`: a computation whose result and whose fault are known.
* `IsDigit`, `Denotes`: digits with their values, and the number of a row of them.
* `FirstFault`: the fault of the first digit that is none or that makes the number too large.
* `Unsigned`, `UnsignedFault`: numerals with an optional plus sign, and what is wrong with others.

## Main statements

* `readDigits_append`: digits that denote a number below the bound are read through.
* `denotes_or_firstFault`: digits denote a number below the bound or have a first fault.
* `classified_readUnsigned`: what is read behind an optional sign, and why nothing is.
* `digitsIn_eq_toDigits`, `denotes_toDigits`: what is written denotes what it was written for.
-/

namespace SocketAttribution

/-- The result of a computation is known in every case: what it must be if there is one, what the
fault must be if there is none, and that it must be one or the other. -/
structure Classified {ε α : Type} (x : Except ε α) (Good : α → Prop) (Bad : ε → Prop) : Prop where
  good : ∀ a, Good a → x = .ok a
  bad : ∀ e, Bad e → x = .error e
  either : (∃ a, Good a) ∨ ∃ e, Bad e

namespace Classified

variable {ε α : Type} {x : Except ε α} {Good : α → Prop} {Bad : ε → Prop}

theorem ok_iff (h : Classified x Good Bad) {a : α} : x = .ok a ↔ Good a := by
  refine ⟨fun ok => ?_, h.good a⟩
  rcases h.either with ⟨b, good⟩ | ⟨e, bad⟩
  · rw [h.good b good, Except.ok.injEq] at ok
    exact ok ▸ good
  · rw [h.bad e bad] at ok
    cases ok

theorem error_iff (h : Classified x Good Bad) {e : ε} : x = .error e ↔ Bad e := by
  refine ⟨fun error => ?_, h.bad e⟩
  rcases h.either with ⟨a, good⟩ | ⟨e', bad⟩
  · rw [h.good a good] at error
    cases error
  · rw [h.bad e' bad, Except.error.injEq] at error
    exact error ▸ bad

end Classified

namespace Text

variable {radix bound m n : ℕ} {c : Char} {s front rest digits : List Char} {fault : NumeralError}

/-! ## Digits -/

/-- A character is the digit of a value in a radix up to sixteen, a letter in either case. -/
def IsDigit (radix : ℕ) (c : Char) (value : ℕ) : Prop :=
  value < radix ∧ (c = value.digitChar ∨ c = value.digitChar.toUpper)

theorem toNat_digitChar_of_letter {value : ℕ} (least : 10 ≤ value) (most : value < 16) :
    value.digitChar.toNat = 87 + value ∧ value.digitChar.toUpper.toNat = 55 + value := by
  interval_cases value <;> decide

theorem toUpper_digitChar_of_lt_ten {value : ℕ} (h : value < 10) :
    value.digitChar.toUpper = value.digitChar := by
  interval_cases value <;> decide

/-- The value of a digit is its distance from the first one of its kind. -/
theorem digitValue?_eq_some_iff_toNat {value : ℕ} : digitValue? radix c = some value ↔
    value < radix ∧ (48 ≤ c.toNat ∧ c.toNat ≤ 57 ∧ value = c.toNat - 48 ∨
      97 ≤ c.toNat ∧ c.toNat ≤ 122 ∧ value = c.toNat - 87 ∨
      65 ≤ c.toNat ∧ c.toNat ≤ 90 ∧ value = c.toNat - 55) := by
  have le_iff (a b : Char) : a ≤ b ↔ a.toNat ≤ b.toNat := Iff.rfl
  have zero : '0'.toNat = 48 := rfl
  have nine : '9'.toNat = 57 := rfl
  have lowerA : 'a'.toNat = 97 := rfl
  have lowerZ : 'z'.toNat = 122 := rfl
  have upperA : 'A'.toNat = 65 := rfl
  have upperZ : 'Z'.toNat = 90 := rfl
  unfold digitValue?
  simp only [le_iff, zero, nine, lowerA, lowerZ, upperA, upperZ]
  rw [Option.ite_none_right_eq_some, Option.some.injEq]
  split_ifs <;> omega

/-- **A character is read as the digit that it is.** -/
theorem digitValue?_eq_some_iff (small : radix ≤ 16) {value : ℕ} :
    digitValue? radix c = some value ↔ IsDigit radix c value := by
  rw [digitValue?_eq_some_iff_toNat, IsDigit, ← Char.toNat_inj, ← Char.toNat_inj]
  refine and_congr_right fun less => ?_
  by_cases ten : value < 10
  · rw [toUpper_digitChar_of_lt_ten ten, Nat.toNat_digitChar_of_lt_ten ten]
    omega
  · obtain ⟨lower, upper⟩ := toNat_digitChar_of_letter (by omega) (less.trans_le small)
    rw [lower, upper]
    omega

theorem digitValue?_eq_none_iff (small : radix ≤ 16) :
    digitValue? radix c = none ↔ ∀ value, ¬ IsDigit radix c value := by
  rw [Option.eq_none_iff_forall_ne_some]
  exact forall_congr' fun value => not_congr (digitValue?_eq_some_iff small)

theorem IsDigit.unique (small : radix ≤ 16) {v w : ℕ} (hv : IsDigit radix c v)
    (hw : IsDigit radix c w) : v = w := by
  rw [← digitValue?_eq_some_iff small] at hv hw
  exact Option.some.inj (hv.symm.trans hw)

/-- No sign is a digit. -/
theorem not_isDigit_of_sign (small : radix ≤ 16) (sign : c = '+' ∨ c = '-') (value : ℕ) :
    ¬ IsDigit radix c value := by
  rw [← digitValue?_eq_some_iff small, digitValue?_eq_some_iff_toNat]
  have plus : '+'.toNat = 43 := rfl
  have minus : '-'.toNat = 45 := rfl
  rcases sign with rfl | rfl <;> omega

/-- The decimal digits are those of ASCII. -/
theorem isDigit_iff : c.isDigit = true ↔ ∃ value, IsDigit 10 c value := by
  have zero : '0'.toNat = 48 := rfl
  have nine : '9'.toNat = 57 := rfl
  simp only [Char.isDigit_iff_toNat, zero, nine, ← digitValue?_eq_some_iff (show 10 ≤ 16 by decide),
    digitValue?_eq_some_iff_toNat]
  constructor
  · exact fun _ => ⟨c.toNat - 48, by omega⟩
  · rintro ⟨value, h⟩
    omega

/-! ## The number of a row of digits -/

/-- Digits denote the number that their values make up, the last digit standing for the units. -/
def Denotes (radix : ℕ) (digits : List Char) (n : ℕ) : Prop :=
  ∃ values, List.Forall₂ (IsDigit radix) digits.reverse values ∧ Nat.ofDigits radix values = n

theorem denotes_nil_iff : Denotes radix [] n ↔ n = 0 := by
  constructor
  · rintro ⟨values, row, rfl⟩
    obtain rfl := List.forall₂_nil_left_iff.1 row
    rfl
  · rintro rfl
    exact ⟨[], .nil, rfl⟩

/-- **One digit more** multiplies by the radix and adds the value of the digit. -/
theorem denotes_concat_iff : Denotes radix (front ++ [c]) n ↔
    ∃ m value, Denotes radix front m ∧ IsDigit radix c value ∧ n = m * radix + value := by
  unfold Denotes
  rw [List.reverse_concat]
  constructor
  · rintro ⟨values, row, rfl⟩
    obtain ⟨value, before, digit, rows, rfl⟩ := List.forall₂_cons_left_iff.1 row
    refine ⟨_, value, ⟨before, rows, rfl⟩, digit, ?_⟩
    rw [Nat.ofDigits_cons, Nat.mul_comm, Nat.add_comm]
  · rintro ⟨_, value, ⟨before, rows, rfl⟩, digit, rfl⟩
    refine ⟨value :: before, .cons digit rows, ?_⟩
    rw [Nat.ofDigits_cons, Nat.mul_comm, Nat.add_comm]

/-- A row of digits denotes one number only. -/
theorem Denotes.unique (small : radix ≤ 16) (hm : Denotes radix digits m)
    (hn : Denotes radix digits n) : m = n := by
  induction digits using List.reverseRecOn generalizing m n with
  | nil => rw [denotes_nil_iff.1 hm, denotes_nil_iff.1 hn]
  | append_singleton front c ih =>
      obtain ⟨m', v, before, digit, rfl⟩ := denotes_concat_iff.1 hm
      obtain ⟨n', w, before', digit', rfl⟩ := denotes_concat_iff.1 hn
      rw [ih before before', digit.unique small digit']

/-- What stands in front of a digit denotes a number that is not larger. -/
theorem Denotes.front_le (h : Denotes radix (front ++ [c]) n) :
    ∃ m ≤ n, Denotes radix front m := by
  obtain ⟨m, value, before, digit, rfl⟩ := denotes_concat_iff.1 h
  have pos : 0 < radix := Nat.zero_lt_of_lt digit.1
  exact ⟨m, Nat.le_add_right_of_le (Nat.le_mul_of_pos_right m pos), before⟩

/-- Every character of a row of digits is a digit. -/
theorem Denotes.isDigit (h : Denotes radix digits n) (mem : c ∈ digits) :
    ∃ value, IsDigit radix c value := by
  induction digits using List.reverseRecOn generalizing n with
  | nil => exact absurd mem List.not_mem_nil
  | append_singleton front d ih =>
      obtain ⟨m, value, before, digit, -⟩ := denotes_concat_iff.1 h
      rcases List.mem_append.1 mem with earlier | last
      · exact ih before earlier
      · exact ⟨value, List.mem_singleton.1 last ▸ digit⟩

/-! ## Reading digits -/

/-- The fault of the first character at which digits cannot be read on: it is no digit, or with it
the number reaches the bound. -/
inductive FirstFault (radix bound : ℕ) (digits : List Char) : NumeralError → Prop
  | invalidDigit {front rest : List Char} {c : Char} {m : ℕ} : digits = front ++ c :: rest →
      Denotes radix front m → m < bound → (∀ value, ¬ IsDigit radix c value) →
        FirstFault radix bound digits .invalidDigit
  | tooLarge {front rest : List Char} {c : Char} {m n : ℕ} : digits = front ++ c :: rest →
      Denotes radix front m → m < bound → Denotes radix (front ++ [c]) n → bound ≤ n →
        FirstFault radix bound digits .tooLarge

theorem readDigits_cons_of_isDigit (small : radix ≤ 16) {value : ℕ}
    (digit : IsDigit radix c value) :
    readDigits radix bound m (c :: rest) =
      if m * radix + value < bound then readDigits radix bound (m * radix + value) rest
      else .error .tooLarge := by
  rw [readDigits, (digitValue?_eq_some_iff small).2 digit]

theorem readDigits_cons_of_not_isDigit (small : radix ≤ 16)
    (none : ∀ value, ¬ IsDigit radix c value) :
    readDigits radix bound m (c :: rest) = .error .invalidDigit := by
  rw [readDigits, (digitValue?_eq_none_iff small).2 none]

/-- **Digits that denote a number below the bound are read through**: reading goes on behind them
with their number. -/
theorem readDigits_append (small : radix ≤ 16) (before : Denotes radix front m)
    (below : m < bound) :
    readDigits radix bound 0 (front ++ rest) = readDigits radix bound m rest := by
  induction front using List.reverseRecOn generalizing m rest with
  | nil => rw [denotes_nil_iff.1 before, List.nil_append]
  | append_singleton front c ih =>
      obtain ⟨m', value, earlier, digit, rfl⟩ := denotes_concat_iff.1 before
      obtain ⟨m'', le, earlier'⟩ := before.front_le
      obtain rfl := earlier.unique small earlier'
      rw [List.append_assoc, List.singleton_append, ih earlier (le.trans_lt below),
        readDigits_cons_of_isDigit small digit, if_pos below]

/-- Reading goes through or stops at a first fault. -/
theorem denotes_or_firstFault (pos : 0 < bound) (digits : List Char) :
    (∃ n, Denotes radix digits n ∧ n < bound) ∨ ∃ fault, FirstFault radix bound digits fault := by
  induction digits using List.reverseRecOn with
  | nil => exact .inl ⟨0, denotes_nil_iff.2 rfl, pos⟩
  | append_singleton front c ih =>
      rcases ih with ⟨m, before, below⟩ | ⟨fault, ⟨split, before, below, none⟩ |
        ⟨split, before, below, next, reached⟩⟩
      · by_cases digit : ∃ value, IsDigit radix c value
        · obtain ⟨value, digit⟩ := digit
          have next : Denotes radix (front ++ [c]) (m * radix + value) :=
            denotes_concat_iff.2 ⟨m, value, before, digit, rfl⟩
          rcases Nat.lt_or_ge (m * radix + value) bound with less | reached
          · exact .inl ⟨_, next, less⟩
          · exact .inr ⟨_, .tooLarge rfl before below next reached⟩
        · exact .inr ⟨_, .invalidDigit rfl before below (not_exists.1 digit)⟩
      -- A fault further in front is the first one of the longer row too.
      · exact .inr ⟨_, .invalidDigit (by rw [split, List.append_assoc, List.cons_append]) before
          below none⟩
      · exact .inr ⟨_, .tooLarge (by rw [split, List.append_assoc, List.cons_append]) before
          below next reached⟩

theorem FirstFault.readDigits_eq (small : radix ≤ 16) (h : FirstFault radix bound digits fault) :
    readDigits radix bound 0 digits = .error fault := by
  rcases h with ⟨rfl, before, below, none⟩ | ⟨rfl, before, below, next, reached⟩
  · rw [readDigits_append small before below, readDigits_cons_of_not_isDigit small none]
  · obtain ⟨m', value, before', digit, rfl⟩ := denotes_concat_iff.1 next
    obtain rfl := before.unique small before'
    rw [readDigits_append small before below, readDigits_cons_of_isDigit small digit,
      if_neg (Nat.not_lt.2 reached)]

theorem Denotes.readDigits_eq (small : radix ≤ 16) (h : Denotes radix digits n) (less : n < bound) :
    readDigits radix bound 0 digits = .ok n := by
  rw [← List.append_nil digits, readDigits_append small h less, readDigits_nil]

/-- Digits throughout are refused for their size alone. -/
theorem Denotes.readDigits_eq_of_le (small : radix ≤ 16) (pos : 0 < bound)
    (h : Denotes radix digits n) (le : bound ≤ n) :
    readDigits radix bound 0 digits = .error .tooLarge := by
  rcases denotes_or_firstFault pos digits with ⟨m, denotes, less⟩ | ⟨fault, first⟩
  · exact absurd (h.unique small denotes ▸ less) (Nat.not_lt.2 le)
  · rw [first.readDigits_eq small]
    rcases first with ⟨rfl, -, -, none⟩ | -
    · obtain ⟨value, digit⟩ := h.isDigit (List.mem_append_right _ List.mem_cons_self)
      exact absurd digit (none value)
    · rfl

/-! ## Numerals with an optional plus sign -/

/-- A text is an optional plus sign and a row of digits, at least one, that denotes a number. -/
def Unsigned (radix : ℕ) (s : List Char) (n : ℕ) : Prop :=
  ∃ digits, digits ≠ [] ∧ (s = digits ∨ s = '+' :: digits) ∧ Denotes radix digits n

/-- What is wrong with a text that should be a numeral below a bound: there is nothing, or there is
a plus sign and nothing else, or reading stops at the first fault of what stands behind a plus sign
or, without one, of the whole text. -/
inductive UnsignedFault (radix bound : ℕ) : List Char → NumeralError → Prop
  | empty : UnsignedFault radix bound [] .empty
  | loneSign : UnsignedFault radix bound ['+'] .invalidDigit
  | bare {digits : List Char} {fault : NumeralError} : digits.head? ≠ some '+' →
      FirstFault radix bound digits fault → UnsignedFault radix bound digits fault
  | plus {digits : List Char} {fault : NumeralError} : FirstFault radix bound digits fault →
      UnsignedFault radix bound ('+' :: digits) fault

theorem FirstFault.ne_nil (h : FirstFault radix bound digits fault) : digits ≠ [] := by
  rcases h with ⟨rfl, -⟩ | ⟨rfl, -⟩ <;> simp

/-- No row of digits starts with a plus sign. -/
theorem Denotes.bare (small : radix ≤ 16) (h : Denotes radix digits n) :
    digits.head? ≠ some '+' := by
  intro plus
  obtain ⟨value, digit⟩ := h.isDigit (List.mem_of_mem_head? plus)
  exact not_isDigit_of_sign small (.inl rfl) value digit

/-- A minus sign stands in the place of a digit. -/
theorem unsignedFault_of_minus (small : radix ≤ 16) (pos : 0 < bound) :
    UnsignedFault radix bound ('-' :: rest) .invalidDigit := by
  have first : FirstFault radix bound ('-' :: rest) .invalidDigit :=
    .invalidDigit (List.nil_append _).symm (denotes_nil_iff.2 rfl) pos
      (not_isDigit_of_sign small (.inr rfl))
  exact .bare nofun first

theorem readUnsigned_plus (some : digits ≠ []) :
    readUnsigned radix bound ('+' :: digits) = readDigits radix bound 0 digits := by
  obtain ⟨c, rest, rfl⟩ := List.exists_cons_of_ne_nil some
  rfl

theorem readUnsigned_bare (some : digits ≠ []) (bare : digits.head? ≠ .some '+') :
    readUnsigned radix bound digits = readDigits radix bound 0 digits := by
  obtain ⟨c, rest, rfl⟩ := List.exists_cons_of_ne_nil some
  have other : c ≠ '+' := fun same => bare (same ▸ rfl)
  unfold readUnsigned
  split <;> simp_all

/-- A text is empty, a plus sign alone, a plus sign in front of something, or anything else. -/
theorem sign_cases (s : List Char) : s = [] ∨ s = ['+'] ∨
    (∃ digits, digits ≠ [] ∧ s = '+' :: digits) ∨ s ≠ [] ∧ s.head? ≠ some '+' := by
  rcases s with - | ⟨c, rest⟩
  · exact .inl rfl
  · by_cases plus : c = '+'
    · subst plus
      rcases eq_or_ne rest [] with rfl | some
      · exact .inr (.inl rfl)
      · exact .inr (.inr (.inl ⟨rest, some, rfl⟩))
    · exact .inr (.inr (.inr ⟨List.cons_ne_nil c rest, by simpa using plus⟩))

/-- Every text is a numeral below the bound or has something wrong with it. -/
theorem unsigned_or_fault (pos : 0 < bound) (s : List Char) :
    (∃ n, Unsigned radix s n ∧ n < bound) ∨ ∃ fault, UnsignedFault radix bound s fault := by
  rcases sign_cases s with rfl | rfl | ⟨digits, some, rfl⟩ | ⟨some, bare⟩
  · exact .inr ⟨_, .empty⟩
  · exact .inr ⟨_, .loneSign⟩
  · rcases denotes_or_firstFault pos digits with ⟨n, denotes, less⟩ | ⟨fault, first⟩
    · exact .inl ⟨n, ⟨digits, some, .inr rfl, denotes⟩, less⟩
    · exact .inr ⟨fault, .plus first⟩
  · rcases denotes_or_firstFault pos s with ⟨n, denotes, less⟩ | ⟨fault, first⟩
    · exact .inl ⟨n, ⟨s, some, .inl rfl, denotes⟩, less⟩
    · exact .inr ⟨fault, .bare bare first⟩

theorem Unsigned.readUnsigned_eq (small : radix ≤ 16) (h : Unsigned radix s n) (less : n < bound) :
    readUnsigned radix bound s = .ok n := by
  obtain ⟨digits, some, rfl | rfl, denotes⟩ := h
  · rw [readUnsigned_bare some (denotes.bare small), denotes.readDigits_eq small less]
  · rw [readUnsigned_plus some, denotes.readDigits_eq small less]

theorem UnsignedFault.readUnsigned_eq (small : radix ≤ 16) (h : UnsignedFault radix bound s fault) :
    readUnsigned radix bound s = .error fault := by
  rcases h with - | - | ⟨bare, first⟩ | first
  · rfl
  · rfl
  · rw [readUnsigned_bare first.ne_nil bare, first.readDigits_eq small]
  · rw [readUnsigned_plus first.ne_nil, first.readDigits_eq small]

/-- **What is read is the number of a numeral below the bound**, and where nothing is read the fault
is what is wrong with the text. -/
theorem classified_readUnsigned (small : radix ≤ 16) (pos : 0 < bound) (s : List Char) :
    Classified (readUnsigned radix bound s) (fun n => Unsigned radix s n ∧ n < bound)
      (UnsignedFault radix bound s) where
  good _ h := h.1.readUnsigned_eq small h.2
  bad _ wrong := wrong.readUnsigned_eq small
  either := unsigned_or_fault pos s

/-! ## What is written -/

/-- **The digits that are written are those of the standard printer.** -/
theorem digitsIn_eq_toDigits (two_le : 2 ≤ radix) (small : radix ≤ 16) (n : ℕ) :
    digitsIn radix n = Nat.toDigits radix n := by
  have same : ∀ value < 16, digitChar value = value.digitChar := by decide
  induction n using Nat.strong_induction_on with
  | _ n ih =>
    rcases Nat.lt_or_ge n radix with less | le
    · rw [digitsIn_of_lt less, Nat.toDigits_of_lt_base less, same n (less.trans_le small)]
    · have last : n % radix < 16 := (Nat.mod_lt n (by omega)).trans_le small
      rw [digitsIn_of_le two_le le, Nat.toDigits_of_base_le two_le le, same _ last,
        ih _ (Nat.div_lt_self (by omega) two_le)]

/-- **What is written denotes what it was written for.** -/
theorem denotes_toDigits (two_le : 2 ≤ radix) (n : ℕ) : Denotes radix (Nat.toDigits radix n) n := by
  induction n using Nat.strong_induction_on with
  | _ n ih =>
    rcases Nat.lt_or_ge n radix with less | le
    · rw [Nat.toDigits_of_lt_base less, ← List.nil_append [_]]
      exact denotes_concat_iff.2 ⟨0, n, denotes_nil_iff.2 rfl, ⟨less, .inl rfl⟩, by omega⟩
    · rw [Nat.toDigits_of_base_le two_le le]
      have last : IsDigit radix (n % radix).digitChar (n % radix) :=
        ⟨Nat.mod_lt n (by omega), .inl rfl⟩
      exact denotes_concat_iff.2 ⟨n / radix, n % radix,
        ih _ (Nat.div_lt_self (by omega) two_le), last, (Nat.div_add_mod' n radix).symm⟩

theorem decimalText_eq_toString (n : ℕ) : decimalText n = toString n := by
  rw [decimalText, decimal, digitsIn_eq_toDigits (by decide) (by decide)]
  rfl

/-- What is written is a numeral. -/
theorem unsigned_digitsIn (two_le : 2 ≤ radix) (small : radix ≤ 16) (n : ℕ) :
    Unsigned radix (digitsIn radix n) n := by
  refine ⟨digitsIn radix n, digitsIn_ne_nil radix n, .inl rfl, ?_⟩
  rw [digitsIn_eq_toDigits two_le small]
  exact denotes_toDigits two_le n

end Text

end SocketAttribution
