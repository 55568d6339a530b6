/-!
# Numerals

Reading and writing of whole numbers in a radix.

## Main definitions

* `NumeralError`: what can be wrong with a numeral.
* `readUnsigned`, `readSigned`: a numeral below a bound, with an optional sign.
* `digitsIn`: the digits of a number, most significant first.

## Design notes

Digits are read from left to right and the first problem wins: a numeral that grows too large
before its first bad digit is too large, one whose bad digit comes first has an invalid digit.
-/

namespace SocketAttribution.Text

/-- What can be wrong with a numeral. -/
inductive NumeralError where
  /-- There is nothing to read. -/
  | empty
  /-- A character is no digit of the radix, or a sign stands alone or where none may stand. -/
  | invalidDigit
  /-- The number reaches the bound from above. -/
  | tooLarge
  /-- The number falls below the least one admitted. -/
  | tooSmall
  deriving DecidableEq, Repr

/-- The wording of a numeral's fault. -/
def NumeralError.message : NumeralError → String
  | .empty => "cannot parse integer from empty string"
  | .invalidDigit => "invalid digit found in string"
  | .tooLarge => "number too large to fit in target type"
  | .tooSmall => "number too small to fit in target type"

/-! ## Digits -/

/-- The value of a character as a digit of a radix up to 36; letters count in either case. -/
def digitValue? (radix : Nat) (c : Char) : Option Nat :=
  let value :=
    if '0' ≤ c ∧ c ≤ '9' then c.toNat - 48
    else if 'a' ≤ c ∧ c ≤ 'z' then c.toNat - 87
    else if 'A' ≤ c ∧ c ≤ 'Z' then c.toNat - 55
    else radix
  if value < radix then some value else none

/-- Whether a character is one of the ten ASCII digits. -/
def isDecimalDigit (c : Char) : Bool :=
  '0' ≤ c && c ≤ '9'

/-- The digit of a value below 36, in lower case. -/
def digitChar (value : Nat) : Char :=
  if value < 10 then Char.ofNat (48 + value) else Char.ofNat (87 + value)

/-- The digits of a number in a radix of at least two, most significant first. -/
def digitsIn (radix n : Nat) : List Char :=
  if _h : n < radix ∨ radix ≤ 1 then [digitChar n]
  else digitsIn radix (n / radix) ++ [digitChar (n % radix)]
termination_by n
decreasing_by exact Nat.div_lt_self (by omega) (by omega)

/-- The decimal digits of a number. -/
def decimal (n : Nat) : List Char := digitsIn 10 n

/-- The decimal text of a number. -/
def decimalText (n : Nat) : String := String.ofList (decimal n)

/-- The hexadecimal text of a number behind the mark of the radix. -/
def hexText (n : Nat) : String := String.ofList ('0' :: 'x' :: digitsIn 16 n)

theorem digitsIn_of_lt {radix n : Nat} (h : n < radix) : digitsIn radix n = [digitChar n] := by
  rw [digitsIn, dif_pos (Or.inl h)]

theorem digitsIn_of_le {radix n : Nat} (two_le : 2 ≤ radix) (h : radix ≤ n) :
    digitsIn radix n = digitsIn radix (n / radix) ++ [digitChar (n % radix)] := by
  rw [digitsIn, dif_neg (by omega)]

/-- **No number is written without a digit.** -/
theorem digitsIn_ne_nil (radix n : Nat) : digitsIn radix n ≠ [] := by
  rw [digitsIn]
  split <;> simp

/-! ## Reading -/

/-- Reads digits onto a number read so far, while it stays below the bound. -/
def readDigits (radix bound : Nat) : Nat → List Char → Except NumeralError Nat
  | read, [] => .ok read
  | read, c :: rest =>
    match digitValue? radix c with
    | none => .error .invalidDigit
    | some value =>
      if read * radix + value < bound then readDigits radix bound (read * radix + value) rest
      else .error .tooLarge

@[simp] theorem readDigits_nil (radix bound read : Nat) :
    readDigits radix bound read [] = .ok read := rfl

/-- A numeral below `bound`, with an optional plus sign. A sign alone is an invalid digit, and so
is a minus sign anywhere. -/
def readUnsigned (radix bound : Nat) : List Char → Except NumeralError Nat
  | [] => .error .empty
  | ['+'] => .error .invalidDigit
  | '+' :: digits => readDigits radix bound 0 digits
  | digits => readDigits radix bound 0 digits

/-- A decimal numeral from `-bound` up to below `bound`, with an optional sign. -/
def readSigned (bound : Nat) : List Char → Except NumeralError Int
  | [] => .error .empty
  | ['+'] => .error .invalidDigit
  | ['-'] => .error .invalidDigit
  | '-' :: digits =>
    match readDigits 10 (bound + 1) 0 digits with
    | .ok value => .ok (-(value : Int))
    | .error .tooLarge => .error .tooSmall
    | .error fault => .error fault
  | '+' :: digits => (readDigits 10 bound 0 digits).map Int.ofNat
  | digits => (readDigits 10 bound 0 digits).map Int.ofNat

end SocketAttribution.Text
