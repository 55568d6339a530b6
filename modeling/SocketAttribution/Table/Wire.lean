import SocketAttribution.Charge.Records

/-!
# Wire form of records

How records lie in the memory that the kernel and the agent share: each number in its full width,
least byte first, fields in the order of their declaration.

## Main definitions

* `littleEndian`, `ofLittleEndian`: numbers as bytes.
* `Wire`: types with a wire form that reads back.
-/

namespace SocketAttribution

/-- Bytes as the kernel sees them. -/
abbrev Bytes := List UInt8

/-- How many numbers fit in so many bytes. -/
def byteSpan : Nat → Nat
  | 0 => 1
  | width + 1 => 256 * byteSpan width

/-- The lowest `width` bytes of a number, least first. -/
def littleEndian : Nat → Nat → Bytes
  | 0, _ => []
  | width + 1, n => UInt8.ofNat n :: littleEndian width (n / 256)

/-- The number that the first `width` bytes spell, least first; missing bytes are zero. -/
def ofLittleEndian : Nat → Bytes → Nat
  | 0, _ => 0
  | _ + 1, [] => 0
  | width + 1, b :: rest => b.toNat + 256 * ofLittleEndian width rest

@[simp] theorem length_littleEndian (width n : Nat) : (littleEndian width n).length = width := by
  induction width generalizing n with
  | zero => rfl
  | succ width ih => simp [littleEndian, ih]

/-- **A number that fits reads back, whatever follows it.** -/
theorem ofLittleEndian_littleEndian_append {width n : Nat} (h : n < byteSpan width) (rest : Bytes) :
    ofLittleEndian width (littleEndian width n ++ rest) = n := by
  induction width generalizing n with
  | zero => simp [byteSpan] at h; simp [ofLittleEndian, h]
  | succ width ih =>
    have small : n / 256 < byteSpan width := by
      rw [byteSpan] at h
      omega
    simp only [littleEndian, List.cons_append, ofLittleEndian, ih small, UInt8.toNat_ofNat']
    omega

theorem ofLittleEndian_littleEndian {width n : Nat} (h : n < byteSpan width) :
    ofLittleEndian width (littleEndian width n) = n := by
  simpa using ofLittleEndian_littleEndian_append h []

/-- Types with a wire form that reads back. -/
class Wire (α : Type) where
  /-- The bytes of a value. -/
  encode : α → Bytes
  /-- The value of bytes; bytes that are missing count as zero. -/
  decode : Bytes → α
  /-- The wire form reads back. -/
  decode_encode : ∀ a, decode (encode a) = a

instance : Wire UInt8 where
  encode n := littleEndian 1 n.toNat
  decode bytes := UInt8.ofNat (ofLittleEndian 1 bytes)
  decode_encode n := by rw [ofLittleEndian_littleEndian n.toNat_lt, UInt8.ofNat_toNat]

instance : Wire UInt32 where
  encode n := littleEndian 4 n.toNat
  decode bytes := UInt32.ofNat (ofLittleEndian 4 bytes)
  decode_encode n := by rw [ofLittleEndian_littleEndian n.toNat_lt, UInt32.ofNat_toNat]

instance : Wire UInt64 where
  encode n := littleEndian 8 n.toNat
  decode bytes := UInt64.ofNat (ofLittleEndian 8 bytes)
  decode_encode n := by rw [ofLittleEndian_littleEndian n.toNat_lt, UInt64.ofNat_toNat]

namespace Wire

/-- The number of 32 bits at a place in bytes. -/
def word (offset : Nat) (bytes : Bytes) : UInt32 :=
  UInt32.ofNat (ofLittleEndian 4 (bytes.drop offset))

/-- The number of 64 bits at a place in bytes. -/
def long (offset : Nat) (bytes : Bytes) : UInt64 :=
  UInt64.ofNat (ofLittleEndian 8 (bytes.drop offset))

theorem word_first (n : UInt32) (rest : Bytes) :
    word 0 (littleEndian 4 n.toNat ++ rest) = n := by
  rw [word, List.drop_zero, ofLittleEndian_littleEndian_append n.toNat_lt, UInt32.ofNat_toNat]

theorem word_later (offset n : Nat) (rest : Bytes) :
    word (4 + offset) (littleEndian 4 n ++ rest) = word offset rest := by
  rw [word, word, ← List.drop_drop, List.drop_left' (length_littleEndian 4 n)]

theorem long_first (n : UInt64) (rest : Bytes) :
    long 0 (littleEndian 8 n.toNat ++ rest) = n := by
  rw [long, List.drop_zero, ofLittleEndian_littleEndian_append n.toNat_lt, UInt64.ofNat_toNat]

theorem long_later (offset n : Nat) (rest : Bytes) :
    long (8 + offset) (littleEndian 8 n ++ rest) = long offset rest := by
  rw [long, long, ← List.drop_drop, List.drop_left' (length_littleEndian 8 n)]

end Wire

open Wire in
instance : Wire Charge where
  encode c := littleEndian 4 c.uid.toNat ++ (littleEndian 4 c.tag.toNat ++ [])
  decode bytes := ⟨word 0 bytes, word (4 + 0) bytes⟩
  decode_encode c := by simp only [word_later, word_first]

open Wire in
instance : Wire StatsKey where
  encode k :=
    littleEndian 4 k.uid.toNat ++ (littleEndian 4 k.tag.toNat ++
      (littleEndian 4 k.counterSet.toNat ++ (littleEndian 4 k.interface.toNat ++ [])))
  decode bytes :=
    ⟨word 0 bytes, word (4 + 0) bytes, word (4 + (4 + 0)) bytes, word (4 + (4 + (4 + 0))) bytes⟩
  decode_encode k := by simp only [word_later, word_first]

open Wire in
instance : Wire StatsValue where
  encode v :=
    littleEndian 8 v.rxPackets.toNat ++ (littleEndian 8 v.rxBytes.toNat ++
      (littleEndian 8 v.txPackets.toNat ++ (littleEndian 8 v.txBytes.toNat ++ [])))
  decode bytes :=
    ⟨long 0 bytes, long (8 + 0) bytes, long (8 + (8 + 0)) bytes, long (8 + (8 + (8 + 0))) bytes⟩
  decode_encode v := by simp only [long_later, long_first]

/-- **Two values have two wire forms.** -/
theorem Wire.encode_injective {α : Type} [Wire α] {a b : α}
    (h : Wire.encode a = Wire.encode b) : a = b := by
  rw [← Wire.decode_encode a, h, Wire.decode_encode]

end SocketAttribution
