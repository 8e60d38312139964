import BlockCustody.Compression.Zstandard.Bits

/-!
Contract: numbers of a few bits, packed into bytes.

Owns:
- bit fields, and how many bits they take together;
- packing them from the lowest bit of the first byte on;
- packing them so that they are read from the end.

Does not own: what any field says.
-/

namespace BlockCustody.Compression.Zstandard

/-- A number and the count of bits it is written in. -/
structure BitField where
  value : Nat
  width : Nat
deriving DecidableEq, Repr

/-- Full bytes, and the bits after them that do not fill one. -/
structure Packing where
  bytes : ByteArray
  pending : Nat
  width : Nat

namespace Packing

/-- Moves a number of bytes out of the pending bits. -/
def release : Nat → Packing → Packing
  | 0, packing => packing
  | count + 1, packing =>
      release count
        { bytes := packing.bytes.push (packing.pending % 256).toUInt8
          pending := packing.pending / 256
          width := packing.width - 8 }

/-- Puts a field above the pending bits. -/
def add (packing : Packing) (field : BitField) : Packing :=
  let width := packing.width + field.width
  release (width / 8)
    { packing with
      pending := packing.pending + field.value <<< packing.width
      width }

/-- All bits as bytes; zeros fill up the last one. -/
def close (packing : Packing) : ByteArray :=
  if packing.width = 0 then packing.bytes else packing.bytes.push packing.pending.toUInt8

end Packing

namespace BitField

/-- How many bits fields take together. -/
def totalWidth (fields : List BitField) : Nat :=
  fields.foldl (fun sum field => sum + field.width) 0

/-- Fields as bytes, the first field in the lowest bits of the first byte. -/
def pack (fields : List BitField) : ByteArray :=
  (fields.foldl Packing.add { bytes := ByteArray.empty, pending := 0, width := 0 }).close

/-- Fields in reading order as bytes that are read from their end: each field
goes below those read before it, under one bit that marks the end. -/
def packBackward (fields : List BitField) : ByteArray :=
  pack (fields.reverse ++ [{ value := 1, width := 1 }])

end BitField

end BlockCustody.Compression.Zstandard
