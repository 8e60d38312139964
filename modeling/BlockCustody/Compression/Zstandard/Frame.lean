import BlockCustody.Compression.Zstandard.Block
import BlockCustody.Digest.XxHash64

/-!
Contract: one frame, and what it expands to.

Owns:
- the header of a frame and its limits;
- raw, repeated and compressed blocks, and the checksum after the last one;
- the two ways of expanding: block by block through a buffer that is filled
  again and again, and straight into the destination, which serves small frames
  that are at hand as a whole;
- which fault a damaged or cut frame is refused with in each of the two.

Does not own: the content of compressed blocks, and what surrounds the frame.
-/

namespace BlockCustody.Compression.Zstandard

/-! ## The header -/

/-- What the header of a frame says. -/
structure FrameHeader where
  windowSize : Nat
  contentSize : Option Nat
  hasChecksum : Bool
  dictionary : Nat
  /-- The position after the header. -/
  stop : Nat

/-- No block of the frame holds more than this many bytes. -/
def FrameHeader.blockLimit (header : FrameHeader) : Nat :=
  min header.windowSize Zstandard.blockLimit

/-- Windows whose size has a greater exponent cannot be described. -/
def windowExponentLimit : Nat := 31

/-- Reads the header that starts at a position, just after the mark. -/
def FrameHeader.read (data : ByteArray) (start : Nat) : Except ExpandFault FrameHeader := do
  if data.size ≤ start then throw .incompleteFrame
  let descriptor := byteAt data start
  let isSingle := descriptor / 32 % 2 = 1
  let windowWidth := if isSingle then 0 else 1
  let dictionaryWidth := [0, 1, 2, 4].getD (descriptor % 4) 0
  let sizeWidth :=
    if descriptor / 64 = 0 then (if isSingle then 1 else 0) else powerOfTwo (descriptor / 64)
  let stop := start + 1 + windowWidth + dictionaryWidth + sizeWidth
  if data.size < stop then throw .incompleteFrame
  if descriptor / 8 % 2 = 1 then throw .unsupportedParameter
  let window := byteAt data (start + 1)
  if !isSingle && windowExponentLimit < 10 + window / 8 then throw .windowTooLarge
  let sizeField := numberAt data (stop - sizeWidth) sizeWidth
  let size := if sizeWidth = 2 then sizeField + 256 else sizeField
  let windowBase := powerOfTwo (10 + window / 8)
  return {
    windowSize := if isSingle then size else windowBase + windowBase / 8 * (window % 8)
    contentSize := if sizeWidth = 0 ∨ size = 0xFFFFFFFFFFFFFFFF then none else some size
    hasChecksum := descriptor / 4 % 2 = 1
    dictionary := numberAt data (start + 1 + windowWidth) dictionaryWidth
    stop }

/-! ## Block headers -/

/-- The kinds of blocks. -/
inductive BlockKind where
  | raw
  | repeated
  | compressed
deriving DecidableEq, Repr

/-- What the header of a block says: the size before expanding is that of a
repeated byte's run, and else the size of what follows the header. -/
structure BlockHeader where
  kind : BlockKind
  size : Nat
  isLast : Bool

/-- The bytes of the block after its header. -/
def BlockHeader.codedSize (header : BlockHeader) : Nat :=
  match header.kind with
  | .repeated => 1
  | _ => header.size

/-- The header in the three bytes at a position, unless its kind is unknown. -/
def BlockHeader.read? (data : ByteArray) (position : Nat) : Option BlockHeader :=
  let header := numberAt data position 3
  let kind? :=
    match header / 2 % 4 with
    | 0 => some BlockKind.raw
    | 1 => some BlockKind.repeated
    | 2 => some BlockKind.compressed
    | _ => none
  kind?.map fun kind => { kind, size := header / 8, isLast := header % 2 = 1 }

/-- Checks what a frame has expanded to against the four bytes at a position, if
the frame has a checksum. Returns the position after the frame. -/
def checkContent
    (data : ByteArray)
    (hasChecksum : Bool)
    (position origin : Nat)
    (output : ByteArray) :
    Except ExpandFault Nat := do
  if !hasChecksum then return position
  if data.size < position + 4 then throw .incompleteFrame
  let content := (output.extract origin output.size).data.toList
  let checksum := (Digest.XxHash64.hash content).toNat % 0x100000000
  if checksum ≠ numberAt data position 4 then throw .wrongChecksum
  return position + 4

/-! ## Straight into the destination -/

/-- What a destination takes at a time. Frames that declare no more than this are
expanded straight if they are at hand. -/
def destinationSize : Nat := 8192

/-- Where the frame whose blocks begin at a position ends, if that is not beyond
the limit. The first argument bounds the number of blocks. -/
def frameStop? (data : ByteArray) (limit : Nat) (hasChecksum : Bool) : Nat → Nat → Option Nat
  | 0, _ => none
  | blocks + 1, position =>
      if limit < position + 3 then none
      else
        match BlockHeader.read? data position with
        | none => none
        | some header =>
            let after := position + 3 + header.codedSize
            let stop := if hasChecksum then after + 4 else after
            if header.isLast then if limit < stop then none else some stop
            else frameStop? data limit hasChecksum blocks after

/-- Expands the blocks of a frame straight. -/
def expandStraight
    (data : ByteArray)
    (limit origin : Nat) :
    Nat → Nat → BlockContext → History → Except ExpandFault (ByteArray × Nat)
  | 0, _, _, _ => .error .incompleteFrame
  | blocks + 1, position, context, history => do
      let some header := BlockHeader.read? data position | throw .corrupted
      let body := position + 3
      let after := body + header.codedSize
      let space := destinationSize - (history.output.size - origin)
      let (history, context) ←
        match header.kind with
        | .raw =>
            if space < header.size then throw .outputTooSmall
            else pure (history.append data body after, context)
        | .repeated =>
            if space < header.size then throw .outputTooSmall
            else
              pure (history.appendRun (byteAt data body).toUInt8 header.size, context)
        | .compressed =>
            if limit < header.size then throw .wrongSize
            else expandBlock (data.extract body after) { limit, space } true context history
      if header.isLast then return (history.output, after)
      else expandStraight data limit origin blocks after context history

/-! ## Block by block -/

/-- The sizes of the two buffers a frame is expanded with. They are kept from
frame to frame. -/
structure BufferSizes where
  input : Nat
  output : Nat
deriving DecidableEq, Repr

/-- The buffers for a frame that needs the given ones: those at hand, unless one
of them is too small. -/
def BufferSizes.fitting (atHand needed : BufferSizes) : BufferSizes :=
  if atHand.input < needed.input ∨ atHand.output < needed.output then needed else atHand

/-- The buffers that a frame needs: a window, two blocks and some bytes between
them, or the whole content if that is less. -/
def FrameHeader.buffers (header : FrameHeader) : BufferSizes :=
  let ring := max header.windowSize 1024 + 2 * header.blockLimit + 64
  { input := max header.blockLimit 4
    output :=
      match header.contentSize with
      | some size => min size ring
      | none => ring }

/-- Windows above this size are refused. -/
def windowLimit : Nat := 0x8000001

/-- The buffer is filled from its beginning again if the next block might not fit
into it, unless it holds the whole content. -/
def turnBuffer (header : FrameHeader) (buffer : Nat) (history : History) : History :=
  let holdsAll :=
    match header.contentSize with
    | some size => size ≤ buffer
    | none => false
  if !holdsAll && buffer < history.lapSize + header.blockLimit then history.startLap else history

/-- Expands a block that is not empty and whose header is at a position. -/
def expandOne
    (data : ByteArray)
    (header : BlockHeader)
    (body limit space : Nat)
    (context : BlockContext)
    (history : History) :
    Except ExpandFault (History × BlockContext) := do
  let after := body + header.codedSize
  match header.kind with
  | .raw =>
      if space < min header.size (data.size - body) then throw .outputTooSmall
      if data.size < after then throw .incompleteFrame
      return (history.append data body after, context)
  | .repeated =>
      if data.size < after then throw .incompleteFrame
      if space < header.size then throw .outputTooSmall
      if limit < header.size then throw .corrupted
      return (history.appendRun (byteAt data body).toUInt8 header.size, context)
  | .compressed =>
      if data.size < after then throw .incompleteFrame
      let before := history.output.size
      let (history, context) ←
        expandBlock (data.extract body after) { limit, space } false context history
      if limit < history.output.size - before then throw .corrupted
      return (history, context)

/-- Expands the blocks of a frame from a position on. An empty block is passed
over, and as the last one it ends the frame whatever its content. The first
argument bounds the number of blocks. Returns the output and the position
after the last block. -/
def expandBlocks
    (data : ByteArray)
    (frame : FrameHeader)
    (buffer origin : Nat) :
    Nat → Nat → BlockContext → History → Except ExpandFault (ByteArray × Nat)
  | 0, _, _, _ => .error .incompleteFrame
  | blocks + 1, position, context, history => do
      if data.size < position + 3 then throw .incompleteFrame
      let some header := BlockHeader.read? data position | throw .corrupted
      if frame.blockLimit < header.codedSize then throw .corrupted
      let body := position + 3
      let after := body + header.codedSize
      if header.codedSize = 0 then
        if header.isLast then return (history.output, after)
        else expandBlocks data frame buffer origin blocks after context history
      else
        let (history, context) ←
          expandOne data header body frame.blockLimit (buffer - history.lapSize) context history
        if header.isLast then
          if frame.contentSize.any (· ≠ history.output.size - origin) then throw .corrupted
          return (history.output, after)
        else
          expandBlocks data frame buffer origin blocks after context
            (turnBuffer frame buffer history)

/-! ## The frame -/

/-- Expands the frame whose mark is at a position onto the output. `atHand` is
where the bytes at hand end. Returns the output, the position after the frame
and the buffers it leaves. -/
def expandFrame
    (data : ByteArray)
    (start atHand : Nat)
    (buffers : BufferSizes)
    (output : ByteArray) :
    Except ExpandFault (ByteArray × Nat × BufferSizes) := do
  let header ← FrameHeader.read data (start + 4)
  let origin := output.size
  let history := History.startAfter output
  let straightStop? :=
    if header.contentSize.any (· ≤ destinationSize) then
      frameStop? data atHand header.hasChecksum data.size header.stop
    else none
  if header.dictionary ≠ 0 then throw .wrongDictionary
  match straightStop? with
  | some _ => do
      let (output, position) ←
        expandStraight data header.blockLimit origin data.size header.stop BlockContext.start
          history
      if header.contentSize.any (· ≠ output.size - origin) then throw .corrupted
      let position ← checkContent data header.hasChecksum position origin output
      return (output, position, buffers)
  | none => do
      if windowLimit < header.windowSize then throw .windowTooLarge
      let buffers := buffers.fitting header.buffers
      let (output, position) ←
        expandBlocks data header buffers.output origin data.size header.stop BlockContext.start
          history
      let position ← checkContent data header.hasChecksum position origin output
      return (output, position, buffers)

end BlockCustody.Compression.Zstandard
