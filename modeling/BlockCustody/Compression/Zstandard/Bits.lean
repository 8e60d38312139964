import BlockCustody.Bytes.LittleEndian
import BlockCustody.Compression.Compressor

/-!
Contract: bits and small numbers inside a byte array.

Owns:
- little-endian numbers and bit fields at a position;
- the bit string that is read from its end towards its start, also past the
  start.

Does not own: the meaning of any field.
-/

namespace BlockCustody.Compression.Zstandard

/-- The byte at a position, zero outside the array. -/
def byteAt (data : ByteArray) (position : Nat) : Nat :=
  if inside : position < data.size then data[position].toNat else 0

/-- The little-endian number of `width` bytes at a position. -/
def numberAt (data : ByteArray) (position : Nat) : Nat → Nat
  | 0 => 0
  | width + 1 => byteAt data position + 256 * numberAt data (position + 1) width

/-- The little-endian word of eight bytes at a position, zero outside the array. -/
def wordAt (data : ByteArray) (position : Nat) : UInt64 :=
  let byte (offset : Nat) : UInt64 :=
    if inside : position + offset < data.size then data[position + offset].toUInt64 else 0
  byte 0 ||| (byte 1 <<< 8) ||| (byte 2 <<< 16) ||| (byte 3 <<< 24) |||
    (byte 4 <<< 32) ||| (byte 5 <<< 40) ||| (byte 6 <<< 48) ||| (byte 7 <<< 56)

/-- The lowest `width` bits of a word. -/
def lowestBits (word : UInt64) (width : Nat) : UInt64 :=
  if 64 ≤ width then word else word &&& ((1 <<< width.toUInt64) - 1)

/-- The number in `width` bits, at most 56, whose lowest is bit number `position`;
bits of a byte are counted from its lowest. -/
def bitsAt (data : ByteArray) (position width : Nat) : Nat :=
  (lowestBits (wordAt data (position / 8) >>> (position % 8).toUInt64) width).toNat

/-- A bit string read from its end towards its start. `left` counts the bits not
yet read; it is negative once more was read than there is. `lowest` is the word
at the start, which reads past the start come back to. -/
structure BackwardBits where
  data : ByteArray
  start : Nat
  left : Int
  lowest : UInt64

namespace BackwardBits

/-- The bit string of the bytes from `start` up to `stop`. The highest set bit of
the last byte marks its end and does not belong to it. -/
def ofBytes? (data : ByteArray) (start stop : Nat) : Except ExpandFault BackwardBits :=
  let last := byteAt data (stop - 1)
  if stop ≤ start ∨ last = 0 then .error .corrupted
  else
    .ok
      { data
        start
        left := 8 * (stop - 1 - start) + Nat.log2 last
        lowest := lowestBits (wordAt data start) (8 * (stop - start)) }

/-- The number in the next `width` bits, the first of them the highest. Past the
start zeros are read; once all bits are used, the lowest word comes again. -/
def peek (bits : BackwardBits) (width : Nat) : Nat :=
  let after := bits.left - width
  if width = 0 then 0
  else if 0 ≤ after then bitsAt bits.data (8 * bits.start + after.toNat) width
  else
    let used := ((64 - bits.left) % 64).toNat
    ((bits.lowest <<< used.toUInt64) >>> (64 - width).toUInt64).toNat

/-- As `peek`, except that already the first bit past the start is taken from the
top of the lowest word. -/
def peekAround (bits : BackwardBits) (width : Nat) : Nat :=
  let after := bits.left - width
  if 0 ≤ after then bitsAt bits.data (8 * bits.start + after.toNat) width
  else (lowestBits (bits.lowest >>> (after % 64).toNat.toUInt64) width).toNat

def skip (bits : BackwardBits) (width : Nat) : BackwardBits :=
  { bits with left := bits.left - width }

end BackwardBits

end BlockCustody.Compression.Zstandard
