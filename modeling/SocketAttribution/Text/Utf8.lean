/-!
# UTF-8

The byte form of text, and the reading of bytes that need not be text.

## Main definitions

* `encode`: the bytes of a text.
* `decodeUnits`: bytes as characters and faults; each fault is a maximal part that could still
  have begun a character.
* `decodeLossy`: every fault becomes the replacement character.
* `decode`: stops at the first fault, a `Fault`.
-/

namespace SocketAttribution.Text.Utf8

/-! ## Writing -/

/-- The bytes of one character. -/
def encodeChar (c : Char) : List UInt8 :=
  let n := c.toNat
  let tail (payload : Nat) : UInt8 := UInt8.ofNat (0x80 + payload % 64)
  if n < 0x80 then [UInt8.ofNat n]
  else if n < 0x800 then [UInt8.ofNat (0xC0 + n / 64), tail n]
  else if n < 0x10000 then [UInt8.ofNat (0xE0 + n / 4096), tail (n / 64), tail n]
  else [UInt8.ofNat (0xF0 + n / 262144), tail (n / 4096), tail (n / 64), tail n]

/-- The bytes of a text. -/
def encode (s : List Char) : List UInt8 :=
  s.flatMap encodeChar

@[simp] theorem encode_nil : encode [] = [] := rfl

@[simp] theorem encode_append (s t : List Char) : encode (s ++ t) = encode s ++ encode t := by
  simp [encode]

/-! ## Reading -/

/-- What a first byte announces: the payload it carries, how many bytes follow, and the range in
which the first of them must lie. The ranges shut out overlong forms, surrogates and numbers past
the last character. -/
structure Lead where
  payload : Nat
  following : Nat
  low : UInt8
  high : UInt8

/-- What a byte announces as the first of a character, if it can be one. -/
def lead? (b : UInt8) : Option Lead :=
  let n := b.toNat
  if n < 0x80 then some ⟨n, 0, 0x80, 0xBF⟩
  else if n < 0xC2 then none
  else if n < 0xE0 then some ⟨n - 0xC0, 1, 0x80, 0xBF⟩
  else if n = 0xE0 then some ⟨0, 2, 0xA0, 0xBF⟩
  else if n = 0xED then some ⟨13, 2, 0x80, 0x9F⟩
  else if n < 0xF0 then some ⟨n - 0xE0, 2, 0x80, 0xBF⟩
  else if n = 0xF0 then some ⟨0, 3, 0x90, 0xBF⟩
  else if n < 0xF4 then some ⟨n - 0xF0, 3, 0x80, 0xBF⟩
  else if n = 0xF4 then some ⟨4, 3, 0x80, 0x8F⟩
  else none

/-- Reads the bytes that follow a first byte, as long as they fit: the number reached (nothing, if
one of them is missing or out of range) and what is left. -/
def gather : Nat → UInt8 → UInt8 → Nat → List UInt8 → Option Nat × List UInt8
  | 0, _, _, read, rest => (some read, rest)
  | _ + 1, _, _, _, [] => (none, [])
  | k + 1, low, high, read, b :: rest =>
    if low ≤ b ∧ b ≤ high then gather k 0x80 0xBF (read * 64 + b.toNat % 64) rest
    else (none, b :: rest)

/-- **What is left is no longer than what there was.** -/
theorem length_gather_le (k : Nat) (low high : UInt8) (read : Nat) (rest : List UInt8) :
    (gather k low high read rest).2.length ≤ rest.length := by
  fun_induction gather k low high read rest with
  | case1 => exact Nat.le_refl _
  | case2 => exact Nat.le_refl _
  | case3 _ _ _ _ _ _ _ ih => exact Nat.le_trans ih (Nat.le_succ _)
  | case4 => exact Nat.le_refl _

/-- Bytes as characters, with `none` for each fault. -/
def decodeUnits : List UInt8 → List (Option Char)
  | [] => []
  | b :: rest =>
    match lead? b with
    | none => none :: decodeUnits rest
    | some lead =>
      (gather lead.following lead.low lead.high lead.payload rest).1.map Char.ofNat ::
        decodeUnits (gather lead.following lead.low lead.high lead.payload rest).2
termination_by bytes => bytes.length
decreasing_by
  · simp
  · exact Nat.lt_succ_of_le (length_gather_le ..)

/-- The character that stands for a fault. -/
def replacement : Char := '\uFFFD'

/-- Bytes as text, with the replacement character for each fault. -/
def decodeLossy (bytes : List UInt8) : List Char :=
  (decodeUnits bytes).map (·.getD replacement)

/-- Where bytes are those of no text. -/
structure Fault where
  /-- How many bytes stand in front of it. -/
  place : Nat
  /-- How many bytes could begin a character and do not; nothing, if the bytes end too early. -/
  length : Option Nat
  deriving DecidableEq, Repr

/-- The wording of the fault. -/
def Fault.message (fault : Fault) : String :=
  match fault.length with
  | some length => s!"invalid utf-8 sequence of {length} bytes from index {fault.place}"
  | none => s!"incomplete utf-8 byte sequence from index {fault.place}"

/-- The fault behind a first byte: what followed it, and what is left from where it does not fit. -/
def faultAt (place : Nat) (rest left : List UInt8) : Fault :=
  ⟨place, if left.isEmpty then none else some (1 + rest.length - left.length)⟩

/-- Bytes as text up to the first fault, behind as many bytes as `place` says. -/
def decodeFrom (place : Nat) : List UInt8 → Except Fault (List Char)
  | [] => .ok []
  | b :: rest =>
    match lead? b with
    | none => .error ⟨place, some 1⟩
    | some lead =>
      match (gather lead.following lead.low lead.high lead.payload rest).1 with
      | none =>
        .error (faultAt place rest (gather lead.following lead.low lead.high lead.payload rest).2)
      | some read =>
        (decodeFrom (place + 1 + lead.following)
          (gather lead.following lead.low lead.high lead.payload rest).2).map (Char.ofNat read :: ·)
termination_by bytes => bytes.length
decreasing_by exact Nat.lt_succ_of_le (length_gather_le ..)

/-- Bytes as text, if they are the bytes of one. -/
def decode (bytes : List UInt8) : Except Fault (List Char) := decodeFrom 0 bytes

end SocketAttribution.Text.Utf8
