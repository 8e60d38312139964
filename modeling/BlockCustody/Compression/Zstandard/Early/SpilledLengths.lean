import BlockCustody.Compression.Zstandard.Early.Sequences

/-!
Contract: the sequences sections of the fourth and fifth format.

Owns:
- the head of the section, and the bytes after it into which lengths spill that
  no symbol stands for;
- the single remembered distance;
- carrying out the sequences.

Does not own: the literals.
-/

namespace BlockCustody.Compression.Zstandard.Early

/-! ## The head of the section -/

/-- What the head of a section says: the number of sequences, the tables, where
the spilled lengths are, and where the bits begin. -/
structure SpilledHead where
  count : Nat
  tables : SequenceTables
  spillStart : Nat
  spillStop : Nat
  stop : Nat

/-- The ways in which a table is given. -/
inductive TableMode where
  | plain
  | single
  | again
  | written
deriving DecidableEq, Repr

def TableMode.ofNumber (format : Format) (mode : Nat) : TableMode :=
  match format, mode with
  | .four, 1 => .plain
  | .four, 2 => .single
  | .four, _ => .written
  | _, 0 => .plain
  | _, 1 => .single
  | _, 2 => .again
  | _, _ => .written

/-- Reads one of the three tables. `width` is that of the plain table, `needed`
the number of bytes that must be left where a single symbol stands. -/
def readSpilledTable
    (block : ByteArray)
    (start : Nat)
    (mode : TableMode)
    (width accuracyLimit symbolMask needed : Nat) :
    Except ExpandFault (StateTable × Nat) :=
  match mode with
  | .plain => .ok (StateTable.ofWidth width, start)
  | .single =>
      if block.size < start + needed then .error .wrongSize
      else .ok (StateTable.ofSymbol (byteAt block start % symbolMask), start + 1)
  | .again => .error .corrupted
  | .written =>
      match WrittenCounts.read? block start block.size (powerOfTwo width) with
      | none => .error .unspecific
      | some written =>
          if accuracyLimit < written.accuracy then .error .corrupted
          else .ok (written.table, written.stop)

/-- Reads the number of sequences. The fifth format writes it shorter. -/
def readSpilledCount (format : Format) (block : ByteArray) (start : Nat) :
    Except ExpandFault (Nat × Nat) :=
  match format with
  | .four =>
      if block.size < start + 5 then .error .wrongSize
      else .ok (numberAt block start 2, start + 2)
  | _ =>
      let first := byteAt block start
      if block.size ≤ start then .error .wrongSize
      else if first < 128 then .ok (first, start + 1)
      else if block.size ≤ start + 1 then .error .wrongSize
      else .ok ((first - 128) * 256 + byteAt block (start + 1), start + 2)

/-- Reads the modes of the tables, the spilled lengths and the tables. -/
def readSpilledHead (format : Format) (block : ByteArray) (count start : Nat) :
    Except ExpandFault SpilledHead := do
  if block.size ≤ start then throw .wrongSize
  let modes := byteAt block start
  let isLong := modes / 2 % 2 = 1
  let spillStart := start + (if isLong then 3 else 2)
  if format ≠ .four ∧ block.size < spillStart then throw .wrongSize
  let size :=
    if isLong then byteAt block (start + 2) + byteAt block (start + 1) * 256
    else byteAt block (start + 1) + modes % 2 * 256
  let spillStop := spillStart + size
  if block.size < spillStop + 3 then throw .wrongSize
  let mode := fun number => TableMode.ofNumber format number
  let (literal, position) ← readSpilledTable block spillStop (mode (modes / 64)) 6 10 256 1
  let (distance, position) ←
    readSpilledTable block position (mode (modes / 16 % 4)) 5 9 32 2
  let (matched, position) ← readSpilledTable block position (mode (modes / 4 % 4)) 7 10 256 2
  return { count, tables := { literal, distance, matched }, spillStart, spillStop, stop := position }

/-! ## Spilled lengths -/

/-- The position after spilled bytes, which never leaves them. -/
def spillAfter (stop position : Nat) : Nat :=
  if stop ≤ position then stop - 1 else position

/-- A length whose symbol says that it spills: a byte is added, and a full one
means that the length stands in the bytes after it. Returns the position in
the spilled bytes too. -/
def spilledLength
    (format : Format)
    (block : ByteArray)
    (stop position length : Nat)
    (isChecked : Bool) :
    Nat × Nat :=
  let hasByte := !isChecked || decide (position < stop)
  let added := if hasByte then byteAt block position else 0
  let position := if hasByte then position + 1 else position
  if added < 255 then (length + added, spillAfter stop position)
  else
    match format with
    | .four =>
        if position + 3 ≤ stop then (numberAt block position 3, spillAfter stop (position + 3))
        else (length, spillAfter stop position)
    | _ =>
        if position + 2 ≤ stop then
          let low := numberAt block position 2
          let position := position + 2
          if low % 2 = 1 ∧ position < stop then
            ((low + byteAt block position * 65536) / 2, spillAfter stop (position + 1))
          else (low / 2, spillAfter stop position)
        else (length, spillAfter stop position)

/-! ## One sequence after another -/

/-- The distance before the last one stands in when there are no literals. -/
structure RememberedDistances where
  last : Nat
  before : Nat
deriving DecidableEq, Repr

/-- The distances that are remembered before the first sequence. -/
def RememberedDistances.start (format : Format) : RememberedDistances :=
  if format = .four then { last := 4, before := 4 } else { last := 1, before := 1 }

/-- The distance that a code and its bits stand for. -/
def spilledDistance (code bits : Nat) : Nat :=
  if 1 ≤ code ∧ code < distanceCodeLimit then powerOfTwo (code - 1) + bits else 1 + bits

/-- The three states, the bits they are fed from, and where the next spilled
length is. -/
structure SpilledReader where
  reader : SequenceReader
  spill : Nat
  remembered : RememberedDistances

/-- Reads the bits of a distance, and moves on to the next states. The fourth
format moves on with each symbol, the fifth after the distance. -/
def advance (format : Format) (tables : SequenceTables) (reader : SequenceReader) (width : Nat) :
    Nat × SequenceReader :=
  match format with
  | .four =>
      let (literalState, bits) := tables.literal.nextState reader.literalState reader.bits
      let (distanceState, bits) := tables.distance.nextState reader.distanceState bits
      let number := bits.peek width
      let (matchState, bits) := tables.matched.nextState reader.matchState (bits.skip width)
      (number, { literalState, distanceState, matchState, bits })
  | _ =>
      let number := reader.bits.peek width
      let bits := reader.bits.skip width
      let (distanceState, bits) := tables.distance.nextState reader.distanceState bits
      let (literalState, bits) := tables.literal.nextState reader.literalState bits
      let (matchState, bits) := tables.matched.nextState reader.matchState bits
      (number, { literalState, distanceState, matchState, bits })

/-- Carries out the given number of sequences. None may begin after the bits have
run out. Returns the bits left. -/
def runSpilled
    (format : Format)
    (block : ByteArray)
    (head : SpilledHead)
    (literals : ByteArray) :
    Nat → SpilledReader → SequenceRun → Except ExpandFault (SequenceRun × Int)
  | 0, state, run => .ok (run, state.reader.bits.left)
  | following + 1, state, run => do
      if state.reader.bits.left < 0 then throw .corrupted
      let symbol := (head.tables.literal.cell state.reader.literalState).symbol
      let code := (head.tables.distance.cell state.reader.distanceState).symbol
      let matchSymbol := (head.tables.matched.cell state.reader.matchState).symbol
      let (literalLength, spill) :=
        if symbol = 63 then
          spilledLength format block head.spillStop state.spill symbol (format = .four)
        else (symbol, state.spill)
      let (number, reader) := advance format head.tables state.reader (code - 1)
      let (matchLength, spill) :=
        if matchSymbol = 127 then
          spilledLength format block head.spillStop spill matchSymbol true
        else (matchSymbol, spill)
      let distance :=
        if code ≠ 0 then spilledDistance code number
        else if symbol = 0 then state.remembered.before
        else state.remembered.last
      let before :=
        if code ≠ 0 ∨ literalLength = 0 then state.remembered.last else state.remembered.before
      let run ← stepRun literals run literalLength (matchLength + 4) distance run.recent
      runSpilled format block head literals following
        { reader, spill, remembered := { last := distance, before } } run

/-- Carries out the section that starts at a position, and appends the literals
it leaves. In the fourth format all bits must be used. -/
def expandSpilled
    (format : Format)
    (block : ByteArray)
    (start : Nat)
    (literals : ByteArray)
    (run : SequenceRun) :
    Except ExpandFault SequenceRun := do
  let (count, position) ← readSpilledCount format block start
  if format ≠ .four ∧ byteAt block start = 0 then return ← run.finish literals
  let head ← readSpilledHead format block count position
  if format ≠ .four ∧ count = 0 then return ← run.finish literals
  let bits ← BackwardBits.ofBytes? block head.stop block.size
  let state : SpilledReader :=
    { reader := startReader head.tables bits
      spill := head.spillStart
      remembered := RememberedDistances.start format }
  let (run, left) ← runSpilled format block head literals count state run
  if format = .four ∧ left ≠ 0 then throw .corrupted
  run.finish literals

end BlockCustody.Compression.Zstandard.Early
