import BlockCustody.Compression.Zstandard.Stream
import BlockCustody.Compression.Zstandard.Writing.CodedLiterals
import BlockCustody.Compression.Zstandard.Writing.CodedSequences
import BlockCustody.Compression.Zstandard.Writing.DoubleSearch
import BlockCustody.Compression.Zstandard.Writing.PatientSearch
import BlockCustody.Compression.Zstandard.Writing.SteppedSearch

/-!
Contract: writing a byte string as one frame.

Owns:
- what is remembered from block to block;
- whether a block is raw, one byte repeated, or compressed;
- the frame around the blocks, and the compressor in use.

Does not own: how a block is searched, and how its sections are written.
-/

namespace BlockCustody.Compression.Zstandard

/-! ## Searching a block -/

/-- What a search remembers, by its style. -/
inductive SearchMemory where
  | stepped (stride : Nat) (table : SlotTable)
  | double (table : DoubleTable)
  | patient (patience : Patience) (table : ChainTable)

/-- Nothing is remembered yet. -/
def Effort.memory (effort : Effort) : SearchMemory :=
  match effort.style with
  | .stepped stride => .stepped stride (SlotTable.empty effort.hashedBytes effort.slotWidth)
  | .double shortWidth =>
      .double
        { long := SlotTable.empty 8 effort.slotWidth
          short := SlotTable.empty effort.hashedBytes shortWidth }
  | .patient patience =>
      .patient patience (ChainTable.empty effort.hashedBytes effort.slotWidth)

/-- The two most recent distances. -/
structure RecentPair where
  first : Nat
  second : Nat

/-- A block cut into sequences, and where its last literals start. -/
structure CutBlock where
  sequences : List Sequence
  rest : Nat
  recent : RecentPair

/-- Cuts a block with one way to find matches, which leaves out `margin` bytes at
its end and avoids some at the start of the window. The first byte of all never
belongs to a match. A distance that goes back beyond the start is not used, and
comes back once the block is done. -/
def cutWith
    {Memory : Type}
    (finder : Finder Memory)
    (margin avoided : Nat)
    (data : ByteArray)
    (windowSize start stop : Nat)
    (recent : RecentPair)
    (memory : Memory) :
    CutBlock × Memory :=
  let range : SearchRange :=
    { lowest := stop - windowSize + avoided, limit := stop - margin, stop }
  let position := max start 1
  let usable (distance : Nat) : Nat := if position < distance then 0 else distance
  let { start := rest, recent1, recent2, sequences, memory } :=
    Cutting.run finder data range (stop - start) position
      { start
        recent1 := usable recent.first
        recent2 := usable recent.second
        sequences := []
        memory }
  ({ sequences := sequences.reverse
     rest
     recent :=
       { first := if recent1 = 0 then recent.first else recent1
         second := if recent2 = 0 then recent.second else recent2 } },
    memory)

/-- Cuts a block into sequences. -/
def cutBlock
    (data : ByteArray)
    (windowSize start stop : Nat)
    (recent : RecentPair) :
    SearchMemory → CutBlock × SearchMemory
  | .stepped stride table =>
      let (cut, table) :=
        cutWith (SteppedSearch.finder stride) 8 0 data windowSize start stop recent table
      (cut, .stepped stride table)
  | .double table =>
      let (cut, table) := cutWith DoubleSearch.finder 8 0 data windowSize start stop recent table
      (cut, .double table)
  | .patient patience table =>
      let (cut, table) :=
        cutWith (PatientSearch.finder patience) patience.margin patience.avoided data windowSize
          start stop recent table
      (cut, .patient patience table)

/-! ## Blocks -/

/-- What the blocks written so far leave behind. -/
structure WriterState where
  written : ByteArray
  recent : RecentPair
  memory : SearchMemory

/-- The literals that sequences leave between their matches, and those after them. -/
def literalsOf (data : ByteArray) (start stop : Nat) (cut : CutBlock) : ByteArray :=
  let collect := fun ((literals, position) : ByteArray × Nat) (sequence : Sequence) =>
    let after := position + sequence.literalLength
    (literals ++ data.extract position after, after + sequence.matchLength)
  (cut.sequences.foldl collect (ByteArray.empty, start)).1 ++ data.extract cut.rest stop

/-- A block is doubtful with more than this many literals to every match. -/
def doubtfulRatio : Nat := 20

/-- The content of a compressed block, unless too little is gained by it. -/
def compressedContent?
    (effort : Effort)
    (data : ByteArray)
    (start stop : Nat)
    (cut : CutBlock) :
    Option ByteArray := do
  let literals := literalsOf data start stop cut
  let count := cut.sequences.length
  let isDoubtful := count = 0 || doubtfulRatio ≤ literals.size / count
  let sequences ← SequencesWriter.write? effort cut.sequences
  let content := LiteralsWriter.write effort isDoubtful literals ++ sequences
  let size := stop - start
  if size ≤ content.size + effort.leastGain size then none else some content

def blockHeader (isLast : Bool) (kind size : Nat) : ByteArray :=
  BitField.pack [⟨if isLast then 1 else 0, 1⟩, ⟨kind, 2⟩, ⟨size, 21⟩]

/-- Blocks smaller than this are not searched. -/
def leastSearched : Nat := 7

/-- Contents at least this long are kept even if the block is one byte repeated. -/
def leastKept : Nat := 25

/-- The byte that fills a part of the data, if there is one. -/
def soleByte? (data : ByteArray) (start stop : Nat) : Option Nat :=
  let others := stop - start - 1
  if agreement data start (start + 1) others 0 = others then some (byteAt data start) else none

/-- Writes one block. The first block of a frame is never written as one byte
repeated. -/
def writeBlock
    (effort : Effort)
    (data : ByteArray)
    (start stop : Nat)
    (isLast : Bool)
    (state : WriterState) :
    WriterState :=
  let { written, recent, memory } := state
  let size := stop - start
  let raw := written ++ blockHeader isLast 0 size ++ data.extract start stop
  if size < leastSearched then { written := raw, recent, memory }
  else
    let (cut, memory) := cutBlock data (powerOfTwo effort.windowWidth) start stop recent memory
    let content? := compressedContent? effort data start stop cut
    let isLong := content?.any fun content => leastKept ≤ content.size
    let sole? := if start = 0 || isLong then none else soleByte? data start stop
    match sole?, content? with
    | some byte, _ =>
        { written := (written ++ blockHeader isLast 1 size).push byte.toUInt8, recent, memory }
    | none, some content =>
        { written := written ++ blockHeader isLast 2 content.size ++ content
          recent := cut.recent
          memory }
    | none, none => { written := raw, recent, memory }

/-- Blocks of the largest size, and a last one that is smaller, possibly empty. The
first argument bounds how many blocks come before the last one. -/
def writeBlocks (effort : Effort) (data : ByteArray) : Nat → Nat → WriterState → ByteArray
  | 0, start, state => (writeBlock effort data start data.size true state).written
  | full + 1, start, state =>
      writeBlocks effort data full (start + blockLimit)
        (writeBlock effort data start (start + blockLimit) false state)

/-! ## The frame -/

/-- The parameters of a frame without a checksum, whose size is not told in
advance: the exponent of its window, above ten. -/
def frameParameters (effort : Effort) : Bytes :=
  [0, ((effort.windowWidth - 10) * 8).toUInt8]

/-- A byte string as one frame. -/
def compress (level : Int) (raw : Bytes) : Bytes :=
  let data : ByteArray := ⟨raw.toArray⟩
  let effort := Effort.ofLevel level
  let header := frameMark ++ frameParameters effort
  (writeBlocks effort data (data.size / blockLimit) 0
    { written := ⟨header.toArray⟩
      recent := { first := 1, second := 4 }
      memory := effort.memory }).data.toList

/-- The compressor in use. No frame is used that does not expand to what it was
made from. -/
def compressor : Compressor :=
  Compressor.checked
    { compress := fun level raw => some (compress level raw)
      expand := expand }

end BlockCustody.Compression.Zstandard
