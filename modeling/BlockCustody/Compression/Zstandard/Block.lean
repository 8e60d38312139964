import BlockCustody.Compression.Zstandard.Literals
import BlockCustody.Compression.Zstandard.Sequences

/-!
Contract: the content of one compressed block.

Owns:
- the order of its sections, and the space that each of them may fill;
- what one block hands on to the next: tables and recent distances.

Does not own: the frame around the blocks, and blocks that are not compressed.
-/

namespace BlockCustody.Compression.Zstandard

/-- What blocks of a frame share: the last tables used, and the three most
recent distances. -/
structure BlockContext where
  codeTable : Option CodeTable
  tables : Option SequenceTables
  recent : RecentDistances

/-- The context at the start of a frame. -/
def BlockContext.start : BlockContext :=
  { codeTable := none, tables := none, recent := ⟨1, 4, 8⟩ }

/-- No block holds more than this many bytes. -/
def blockLimit : Nat := 131072

/-- The space in which sequences may be carried out. Where a frame is expanded
straight into its destination, literals that need a copy of their own are kept
at some distance behind the largest block, if there is space for that. -/
def sequenceSpace (room : BlockRoom) (isStraight : Bool) (literals : Literals) : Nat :=
  if isStraight && !literals.inPlace && room.limit + 64 + literals.bytes.size < room.space then
    room.limit + 32
  else room.space

/-- Expands a compressed block onto the history. -/
def expandBlock
    (block : ByteArray)
    (room : BlockRoom)
    (isStraight : Bool)
    (context : BlockContext)
    (history : History) :
    Except ExpandFault (History × BlockContext) := do
  let literals ← Literals.read block room context.codeTable
  let context := { context with codeTable := literals.codeTable }
  if block.size ≤ literals.stop then throw .wrongSize
  let (count, position) ← readSequenceCount block literals.stop
  let run : SequenceRun :=
    { history
      used := 0
      space := sequenceSpace room isStraight literals
      recent := context.recent }
  if count = 0 then
    if position ≠ block.size then throw .corrupted
    let run ← run.finish literals.bytes
    return (run.history, context)
  else
    let (tables, position) ← SequenceTables.read block position context.tables
    if room.space = 0 then throw .outputTooSmall
    let bits ← BackwardBits.ofBytes? block position block.size
    let run ← runSequences tables literals.bytes count (SequenceReader.start tables bits) run
    let run ← run.finish literals.bytes
    return (run.history, { context with tables := some tables, recent := run.recent })

end BlockCustody.Compression.Zstandard
