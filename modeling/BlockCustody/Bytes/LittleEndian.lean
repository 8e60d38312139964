/-!
Contract: byte strings, and numbers written least significant byte first.

Owns:
- the byte string type every format and digest of the library works on;
- how many values a number of bits or of decimal digits has;
- fixed-width little-endian writing and reading, with their round trip.

Does not own: any field layout built from such numbers, and the widths of fields.
-/

namespace BlockCustody

/-- A finite string of bytes. -/
abbrev Bytes := List UInt8

/-- How many values `bits` binary digits have. -/
def powerOfTwo (bits : Nat) : Nat :=
  Nat.pow 2 bits

/-- How many values `digits` decimal digits have. -/
def powerOfTen (digits : Nat) : Nat :=
  Nat.pow 10 digits

namespace LittleEndian

/-- The `width` low bytes of a number, least significant first. -/
def encode : Nat → Nat → Bytes
  | 0, _ => []
  | width + 1, value => UInt8.ofNat value :: encode width (value / 256)

/-- The number whose bytes are given, least significant first. -/
def decode : Bytes → Nat
  | [] => 0
  | byte :: rest => byte.toNat + 256 * decode rest

/-- How many numbers fit a number of bytes. -/
def capacity : Nat → Nat
  | 0 => 1
  | width + 1 => 256 * capacity width

@[simp]
theorem length_encode (width value : Nat) :
    (encode width value).length = width := by
  induction width generalizing value with
  | zero => rfl
  | succ width inductionHypothesis => simp [encode, inductionHypothesis]

/-- Writing keeps exactly the low `width` bytes of the number. -/
theorem decode_encode (width value : Nat) :
    decode (encode width value) = value % capacity width := by
  induction width generalizing value with
  | zero => simp [encode, decode, capacity, Nat.mod_one]
  | succ width inductionHypothesis =>
      rw [capacity, Nat.mod_mul]
      simp only [encode, decode, inductionHypothesis, UInt8.toNat_ofNat']

/-- A number that fits the width is read back unchanged. -/
theorem decode_encode_of_lt
    {width value : Nat}
    (fits : value < capacity width) :
    decode (encode width value) = value := by
  rw [decode_encode, Nat.mod_eq_of_lt fits]

theorem decode_lt (bytes : Bytes) : decode bytes < capacity bytes.length := by
  induction bytes with
  | nil => simp [decode, capacity]
  | cons byte rest inductionHypothesis =>
      have byteBound : byte.toNat < 256 := byte.toNat_lt
      simp only [decode, List.length_cons, capacity]
      omega

/-- Reading and writing back at the same width returns the same bytes. -/
theorem encode_decode (bytes : Bytes) :
    encode bytes.length (decode bytes) = bytes := by
  induction bytes with
  | nil => rfl
  | cons byte rest inductionHypothesis =>
      have byteBound : byte.toNat < 256 := byte.toNat_lt
      have quotient : (byte.toNat + 256 * decode rest) / 256 = decode rest := by omega
      have lowByte : UInt8.ofNat (byte.toNat + 256 * decode rest) = byte := by
        apply UInt8.toNat_inj.mp
        rw [UInt8.toNat_ofNat']
        omega
      simp [encode, decode, quotient, lowByte, inductionHypothesis]

end LittleEndian

end BlockCustody
