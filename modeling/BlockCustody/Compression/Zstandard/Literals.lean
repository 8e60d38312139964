import BlockCustody.Compression.Zstandard.PrefixStreams

/-!
Contract: the literals section of a block.

Owns:
- its four forms: plain, repeated, coded, and coded as before;
- the limits on its sizes, and the fault of each.

Does not own: the sequences that place the literals.
-/

namespace BlockCustody.Compression.Zstandard

/-- How much a block may hold: the largest size of a block, and the space left
for it. -/
structure BlockRoom where
  limit : Nat
  space : Nat

/-- A literals section: the literals, the code they leave behind, and the
position after the section. `inPlace` holds of literals that need no copy of
their own while the block is expanded. -/
structure Literals where
  bytes : ByteArray
  codeTable : Option CodeTable
  stop : Nat
  inPlace : Bool

namespace Literals

/-- Refuses literals that no block may hold, and those there is no space for. -/
def checkSize (room : BlockRoom) (size : Nat) : Except ExpandFault Unit :=
  if room.limit < size then .error .corrupted
  else if room.space < size then .error .outputTooSmall
  else .ok ()

/-- The width of the header of literals that are not coded. -/
def plainWidth (first : Nat) : Nat :=
  match first / 4 % 4 with
  | 1 => 2
  | 3 => 3
  | _ => 1

def plainSize (block : ByteArray) (width : Nat) : Nat :=
  if width = 1 then byteAt block 0 / 8 else numberAt block 0 width / 16

/-- Literals as they are. Followed by enough bytes, they need no copy. -/
def readPlain (block : ByteArray) (room : BlockRoom) (codeTable : Option CodeTable) :
    Except ExpandFault Literals := do
  let width := plainWidth (byteAt block 0)
  if block.size < width then throw .corrupted
  let size := plainSize block width
  checkSize room size
  let stop := width + size
  if block.size < stop then throw .corrupted
  return { bytes := block.extract width stop, codeTable, stop, inPlace := stop + 32 ≤ block.size }

/-- One literal many times. -/
def readRepeated (block : ByteArray) (room : BlockRoom) (codeTable : Option CodeTable) :
    Except ExpandFault Literals := do
  let width := plainWidth (byteAt block 0)
  if block.size < width + 1 then throw .corrupted
  let size := plainSize block width
  checkSize room size
  let byte := (byteAt block width).toUInt8
  return { bytes := ⟨Array.replicate size byte⟩, codeTable, stop := width + 1, inPlace := false }

/-- Coded literals: the sizes, the code unless the last one is used again, and
one stream or four. -/
def readCoded
    (block : ByteArray)
    (room : BlockRoom)
    (last : Option CodeTable) :
    Except ExpandFault Literals := do
  if block.size < 5 then throw .corrupted
  let format := byteAt block 0 / 4 % 4
  let width := if format < 2 then 3 else format + 2
  let sizeBits := if format < 2 then 10 else if format = 2 then 14 else 18
  let header := numberAt block 0 width / 16
  let size := header % powerOfTwo sizeBits
  let codedSize := header / powerOfTwo sizeBits % powerOfTwo sizeBits
  let stop := width + codedSize
  if room.limit < size then throw .corrupted
  if format ≠ 0 ∧ size < 6 then throw .wrongLiteralsHeader
  if block.size < stop then throw .corrupted
  checkSize room size
  let (table, streams) ←
    match last with
    | some table => pure (table, width)
    | none => do
        let (table, streams) ← CodeTable.read block width stop
        let inPairs := format ≠ 0 && CodeTable.usualTimes.prefersPairs size codedSize
        pure ({ table with inPairs }, streams)
  let bytes ←
    if format = 0 then table.decodeStream block streams stop size ByteArray.empty
    else table.decodeFour (block.extract streams stop) size
  return { bytes, codeTable := some table, stop, inPlace := false }

/-- Reads the literals section at the start of a block. -/
def read (block : ByteArray) (room : BlockRoom) (codeTable : Option CodeTable) :
    Except ExpandFault Literals :=
  if block.size < 2 then .error .corrupted
  else
    match byteAt block 0 % 4 with
    | 0 => readPlain block room codeTable
    | 1 => readRepeated block room codeTable
    | 2 => readCoded block room none
    | _ =>
        match codeTable with
        | none => .error .damagedDictionary
        | some table => readCoded block room (some table)

end Literals

end BlockCustody.Compression.Zstandard
