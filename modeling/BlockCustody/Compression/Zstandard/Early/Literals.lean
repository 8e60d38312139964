import BlockCustody.Compression.Zstandard.Early.Format

/-!
Contract: the literals sections of the earlier formats.

Owns:
- the four forms of the section, and their headers, in which the higher bits
  come first;
- the header of the oldest of these formats, in which they come last.

Does not own: the sequences that place the literals.
-/

namespace BlockCustody.Compression.Zstandard.Early

/-- The largest size of a section, and of a block. -/
def sizeLimit : Nat := 131072

/-- A literals section: the literals, the code they leave behind, and the
position after the section. -/
structure Literals where
  bytes : ByteArray
  codeTable : Option CodeTable
  stop : Nat

namespace Literals

/-- The big-endian number of `width` bytes at the start of a block. -/
def headNumber (block : ByteArray) (width : Nat) : Nat :=
  (List.range width).foldl (fun number index => number * 256 + byteAt block index) 0

/-! ## Coded literals -/

/-- Decodes four streams with the code in front of them. Formats up to the sixth
also admit sections that are not coded at all, or hold a single byte. -/
def decodeFour (format : Format) (block : ByteArray) (start stop size : Nat) :
    Except ExpandFault (ByteArray × Option CodeTable) := do
  let codedSize := stop - start
  let admitsOther := format ≠ .seven
  if size = 0 then throw .corrupted
  if size < codedSize then throw .corrupted
  if size = codedSize then
    if admitsOther && format ≠ .five then return (block.extract start stop, none)
    throw .corrupted
  if codedSize = 1 then
    if admitsOther then
      return (⟨Array.replicate size (byteAt block start).toUInt8⟩, none)
    throw .corrupted
  let (table, streams) ← readCode format block start stop
  let inPairs := format.times.prefersPairs size codedSize
  let table := { table with inPairs }
  return (← table.decodeFourApart (block.extract streams stop) size, some table)

/-- Decodes one stream with the code in front of it. -/
def decodeOne (format : Format) (block : ByteArray) (start stop size : Nat) :
    Except ExpandFault (ByteArray × Option CodeTable) := do
  let (table, stream) ← readCode format block start stop
  return (← table.decodeStream block stream stop size ByteArray.empty, some table)

/-- The sizes before and after coding, and the width of the header they are in. -/
def codedSizes (block : ByteArray) : Nat × Nat × Nat :=
  let first := byteAt block 0 / 16 % 4
  let width := if first < 2 then 3 else first + 2
  let sizeBits := if first < 2 then 10 else if first = 2 then 14 else 18
  let header := headNumber block width % powerOfTwo (2 * sizeBits)
  (header / powerOfTwo sizeBits, header % powerOfTwo sizeBits, width)

def readCoded (format : Format) (block : ByteArray) : Except ExpandFault Literals := do
  if block.size < 5 then throw .corrupted
  let (size, codedSize, width) := codedSizes block
  let stop := width + codedSize
  if sizeLimit < size ∨ block.size < stop then throw .corrupted
  let isSingle := byteAt block 0 / 16 % 4 = 1
  let (bytes, codeTable) ←
    if isSingle then decodeOne format block width stop size
    else decodeFour format block width stop size
  return { bytes, codeTable, stop }

/-- One stream under the last code, which must be one that yields pairs. -/
def readCodedAgain (block : ByteArray) (last : Option CodeTable) :
    Except ExpandFault Literals := do
  if byteAt block 0 / 16 % 4 ≠ 1 then throw .corrupted
  let some table := last | throw .damagedDictionary
  let (size, codedSize, width) := codedSizes block
  let stop := width + codedSize
  if block.size < stop ∨ !table.inPairs then throw .corrupted
  let bytes ← table.decodeStream block width stop size ByteArray.empty
  return { bytes, codeTable := last, stop }

/-! ## Other literals -/

/-- The size of literals that are not coded, and the width of the header. -/
def plainSize (block : ByteArray) : Nat × Nat :=
  match byteAt block 0 / 16 % 4 with
  | 2 => (headNumber block 2 % 4096, 2)
  | 3 => (headNumber block 3 % 1048576, 3)
  | _ => (byteAt block 0 % 32, 1)

def readPlain (block : ByteArray) (last : Option CodeTable) : Except ExpandFault Literals := do
  let (size, width) := plainSize block
  let stop := width + size
  if block.size < stop then throw .corrupted
  return { bytes := block.extract width stop, codeTable := last, stop }

def readRepeated (block : ByteArray) (last : Option CodeTable) : Except ExpandFault Literals := do
  let (size, width) := plainSize block
  if block.size < width + 1 ∨ sizeLimit < size then throw .corrupted
  let byte := (byteAt block width).toUInt8
  return { bytes := ⟨Array.replicate size byte⟩, codeTable := last, stop := width + 1 }

/-! ## The section -/

/-- Reads the literals section at the start of a block of the fourth format. Plain
literals that are nearly all of the block are taken from the start of the
section, header included. -/
def readFour (block : ByteArray) : Except ExpandFault Literals := do
  if block.size < 11 then throw .corrupted
  let size := numberAt block 0 3 / 4
  match byteAt block 0 % 4 with
  | 0 =>
      let size := numberAt block 0 4 % 0x200000 / 4
      let stop := 5 + numberAt block 2 3 / 32
      if sizeLimit < size ∨ block.size < stop then throw .corrupted
      let (bytes, _) ← decodeFour .four block 5 stop size
      return { bytes, codeTable := none, stop }
  | 1 =>
      let stop := 3 + size
      if size ≤ block.size - 11 then
        return { bytes := block.extract 3 stop, codeTable := none, stop }
      if sizeLimit < size ∨ block.size < stop then throw .corrupted
      return { bytes := block.extract 0 size, codeTable := none, stop }
  | 2 =>
      if sizeLimit < size then throw .corrupted
      let byte := (byteAt block 3).toUInt8
      return { bytes := ⟨Array.replicate size byte⟩, codeTable := none, stop := 4 }
  | _ => throw .corrupted

/-- Reads the literals section at the start of a block. -/
def read (format : Format) (block : ByteArray) (last : Option CodeTable) :
    Except ExpandFault Literals :=
  match format with
  | .four => readFour block
  | _ =>
      if block.size < 3 then .error .corrupted
      else
        match byteAt block 0 / 64 with
        | 0 => readCoded format block
        | 1 => readCodedAgain block last
        | 2 => readPlain block last
        | _ => readRepeated block last

end Literals

end BlockCustody.Compression.Zstandard.Early
