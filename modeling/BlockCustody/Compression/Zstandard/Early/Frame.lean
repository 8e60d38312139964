import BlockCustody.Compression.Zstandard.Early.Literals
import BlockCustody.Compression.Zstandard.Early.SpilledLengths
import BlockCustody.Digest.XxHash64

/-!
Contract: one frame of an earlier format, and what it expands to.

Owns:
- the headers of these frames;
- their blocks, of which one marks the end and may hold a checksum;
- the buffers they are expanded with;
- which fault a damaged or cut frame is refused with.

Does not own: the content of compressed blocks, and what surrounds the frame.
-/

namespace BlockCustody.Compression.Zstandard.Early

/-! ## The header -/

/-- What the header of a frame says. -/
structure FrameHeader where
  windowSize : Nat
  hasChecksum : Bool
  dictionary : Nat
  /-- The position after the header. -/
  stop : Nat

/-- The header of a format that only says how large the window is. -/
def FrameHeader.readShort (data : ByteArray) (start : Nat) : Except ExpandFault FrameHeader :=
  let descriptor := byteAt data start
  if 16 ≤ descriptor then .error .unsupportedParameter
  else
    .ok
      { windowSize := powerOfTwo (descriptor + 11)
        hasChecksum := false
        dictionary := 0
        stop := start + 1 }

/-- The header of the sixth format, which also gives the size of the content. -/
def FrameHeader.readSix (data : ByteArray) (start : Nat) : Except ExpandFault FrameHeader := do
  let descriptor := byteAt data start
  let stop := start + 1 + [0, 1, 2, 8].getD (descriptor / 64) 0
  if data.size < stop then throw .incompleteFrame
  if descriptor / 32 % 2 = 1 then throw .unsupportedParameter
  return {
    windowSize := powerOfTwo (descriptor % 16 + 12)
    hasChecksum := false
    dictionary := 0
    stop }

/-- The greatest window of the seventh format. -/
def windowLimit : Nat := 0x8000000

/-- The header of the seventh format. Where no window is given, the lower half of
the content's size stands for it. -/
def FrameHeader.readSeven (data : ByteArray) (start : Nat) : Except ExpandFault FrameHeader := do
  let descriptor := byteAt data start
  let isSingle := descriptor / 32 % 2 = 1
  let windowWidth := if isSingle then 0 else 1
  let dictionaryWidth := [0, 1, 2, 4].getD (descriptor % 4) 0
  let sizeWidth :=
    if descriptor / 64 = 0 then (if isSingle then 1 else 0) else powerOfTwo (descriptor / 64)
  let stop := start + 1 + windowWidth + dictionaryWidth + sizeWidth
  if data.size < stop then throw .incompleteFrame
  if descriptor / 8 % 2 = 1 then throw .unsupportedParameter
  let window := byteAt data (start + 1)
  if !isSingle && 27 < 10 + window / 8 then throw .unsupportedParameter
  let sizeField := numberAt data (stop - sizeWidth) sizeWidth
  let size := if sizeWidth = 2 then sizeField + 256 else sizeField
  let windowBase := powerOfTwo (10 + window / 8)
  let windowSize :=
    if isSingle then size % 0x100000000 else windowBase + windowBase / 8 * (window % 8)
  if windowLimit < windowSize then throw .unsupportedParameter
  return {
    windowSize := max windowSize 1024
    hasChecksum := descriptor / 4 % 2 = 1
    dictionary := numberAt data (start + 1 + windowWidth) dictionaryWidth
    stop }

/-- Reads the header that starts at a position, just after the mark. -/
def FrameHeader.read (format : Format) (data : ByteArray) (start : Nat) :
    Except ExpandFault FrameHeader := do
  let header ←
    match format with
    | .four | .five => FrameHeader.readShort data start
    | .six => FrameHeader.readSix data start
    | .seven => FrameHeader.readSeven data start
  if header.dictionary ≠ 0 then throw .wrongDictionary
  return header

/-! ## Buffers -/

/-- The buffers that frames of a format are expanded with. They are kept for later
frames of that format. -/
structure Buffers where
  format : Option Format
  input : Nat
  output : Nat
deriving DecidableEq, Repr

/-- The space that is kept for one block. -/
def blockSpace (format : Format) (header : FrameHeader) : Nat :=
  match format with
  | .four | .five => sizeLimit
  | .six | .seven => min header.windowSize sizeLimit

/-- The buffers for a frame, grown where they are too small. -/
def Buffers.fitting (buffers : Buffers) (format : Format) (header : FrameHeader) : Buffers :=
  let input := blockSpace format header
  let output :=
    match format with
    | .four | .five => header.windowSize
    | .six | .seven => header.windowSize + input + 16
  if buffers.format = some format then
    { format := some format, input := max buffers.input input, output := max buffers.output output }
  else { format := some format, input, output }

/-! ## Blocks -/

/-- What blocks of a frame of the seventh format share. -/
structure BlockContext where
  codeTable : Option CodeTable
  tables : Option SequenceTables
  recent : RecentDistances

/-- The context at the start of a frame; in older formats, of a block. -/
def BlockContext.start (format : Format) : BlockContext :=
  { codeTable := none
    tables := none
    recent := if format = .seven then ⟨1, 4, 8⟩ else ⟨1, 1, 1⟩ }

/-- Expands a compressed block onto the history. -/
def expandBlock
    (format : Format)
    (block : ByteArray)
    (space : Nat)
    (context : BlockContext)
    (history : History) :
    Except ExpandFault (History × BlockContext) := do
  if format = .four ∧ sizeLimit < block.size then throw .corrupted
  if format ≠ .four ∧ sizeLimit ≤ block.size then throw .wrongSize
  let literals ← Literals.read format block context.codeTable
  let run : SequenceRun := { history, used := 0, space, recent := context.recent }
  match format with
  | .four | .five =>
      let run ← expandSpilled format block literals.stop literals.bytes run
      return (run.history, context)
  | .six =>
      let (run, _) ← expandSequences block literals.stop literals.bytes none run
      return (run.history, context)
  | .seven =>
      let (run, tables) ←
        expandSequences block literals.stop literals.bytes context.tables run
      return (run.history, { codeTable := literals.codeTable, tables, recent := run.recent })

/-- The checksum in the bits of the block that marks the end. -/
def endChecksum (data : ByteArray) (position : Nat) : Nat :=
  byteAt data position % 64 * 65536 + byteAt data (position + 1) * 256 + byteAt data (position + 2)

/-- The part of a digest that serves as the checksum. -/
def checksumOf (content : Bytes) : Nat :=
  (Digest.XxHash64.hash content).toNat / 2048 % 0x400000

/-- Refuses a block that is not at hand as a whole. One of which some bytes are at
hand must fit into the input buffer. -/
def checkAtHand (data : ByteArray) (portionStop : Nat → Nat) (input body size : Nat) :
    Except ExpandFault Unit :=
  if body + size ≤ portionStop body then .ok ()
  else if body < data.size ∧ input < size then .error .corrupted
  else if data.size < body + size then .error .incompleteFrame
  else .ok ()

/-- Expands the blocks of a frame from a position on. The frame ends with the block
that marks the end, or with an empty one. The first argument bounds the number
of blocks. Returns the output and the position after the last block. -/
def expandBlocks
    (format : Format)
    (data : ByteArray)
    (portionStop : Nat → Nat)
    (header : FrameHeader)
    (buffers : Buffers)
    (origin : Nat) :
    Nat → Nat → BlockContext → History → Except ExpandFault (ByteArray × Nat)
  | 0, _, _, _ => .error .incompleteFrame
  | blocks + 1, position, context, history => do
      if data.size < position + 3 then throw .incompleteFrame
      let kind := byteAt data position / 64
      let size :=
        byteAt data position % 8 * 65536 + byteAt data (position + 1) * 256 +
          byteAt data (position + 2)
      let body := position + 3
      if kind = 3 then
        let content := (history.output.extract origin history.output.size).data.toList
        if header.hasChecksum && endChecksum data position ≠ checksumOf content then
          throw .wrongChecksum
        return (history.output, body)
      else if kind = 2 then
        if data.size < body + 1 then throw .incompleteFrame
        throw .unspecific
      else if size = 0 then return (history.output, body)
      else
        checkAtHand data portionStop buffers.input body size
        let after := body + size
        let space := buffers.output - history.lapSize
        let before := history.output.size
        let (history, context) ←
          if kind = 1 then
            if space < size then throw .outputTooSmall
            else pure (history.append data body after, context)
          else expandBlock format (data.extract body after) space context history
        let isFull := buffers.output < history.lapSize + blockSpace format header
        let history :=
          if before < history.output.size && isFull then history.startLap else history
        expandBlocks format data portionStop header buffers origin blocks after context history

/-- Expands the frame whose mark is at a position onto the output. Returns the
output, the position after the frame and the buffers it leaves. -/
def expandFrame
    (format : Format)
    (data : ByteArray)
    (portionStop : Nat → Nat)
    (start : Nat)
    (buffers : Buffers)
    (output : ByteArray) :
    Except ExpandFault (ByteArray × Nat × Buffers) := do
  let header ← FrameHeader.read format data (start + 4)
  let buffers := buffers.fitting format header
  let (output, position) ←
    expandBlocks format data portionStop header buffers output.size data.size header.stop
      (BlockContext.start format) (History.startAfter output)
  return (output, position, buffers)

end BlockCustody.Compression.Zstandard.Early
