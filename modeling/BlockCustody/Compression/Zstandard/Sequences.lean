import BlockCustody.Compression.Zstandard.Codes
import BlockCustody.Compression.Zstandard.History

/-!
Contract: the sequences section of a block.

Owns:
- its head: how many sequences there are, and the tables they are coded with;
- carrying out sequence after sequence, and the fault of one that cannot be.

Does not own: the literals, and the limits on the size of a block.
-/

namespace BlockCustody.Compression.Zstandard

/-- The tables of the three codes of a sequence. -/
structure SequenceTables where
  literal : StateTable
  distance : StateTable
  matched : StateTable

/-- The three most recent distances, the last one first. -/
structure RecentDistances where
  first : Nat
  second : Nat
  third : Nat
deriving DecidableEq, Repr

/-! ## The head of the section -/

/-- Reads one of the three tables. The mode says whether it is the default one,
that of a single symbol, one written out, or the last one again. -/
def readTable
    (data : ByteArray)
    (start stop mode symbolLimit accuracyLimit : Nat)
    (standard : StateTable)
    (last : Option StateTable) :
    Except ExpandFault (StateTable × Nat) :=
  match mode with
  | 0 => .ok (standard, start)
  | 1 =>
      if stop ≤ start ∨ symbolLimit ≤ byteAt data start then .error .corrupted
      else .ok (StateTable.ofSymbol (byteAt data start), start + 1)
  | 2 => StateTable.read data start stop symbolLimit accuracyLimit
  | _ =>
      match last with
      | some table => .ok (table, start)
      | none => .error .corrupted

/-- Reads the three tables, preceded by their modes. -/
def SequenceTables.read
    (block : ByteArray)
    (start : Nat)
    (last : Option SequenceTables) :
    Except ExpandFault (SequenceTables × Nat) := do
  let stop := block.size
  if stop ≤ start then throw .wrongSize
  let modes := byteAt block start
  if modes % 4 ≠ 0 then throw .corrupted
  let (literal, position) ←
    readTable block (start + 1) stop (modes / 64) 36 9 literalDefault (last.map (·.literal))
  let (distance, position) ←
    readTable block position stop (modes / 16 % 4) 32 8 distanceDefault (last.map (·.distance))
  let (matched, position) ←
    readTable block position stop (modes / 4 % 4) 53 9 matchDefault (last.map (·.matched))
  return ({ literal, distance, matched }, position)

/-- Reads the number of sequences. -/
def readSequenceCount (block : ByteArray) (start : Nat) : Except ExpandFault (Nat × Nat) :=
  let first := byteAt block start
  let width := if first < 128 then 1 else if first < 255 then 2 else 3
  if block.size < start + width then .error .wrongSize
  else if first < 128 then .ok (first, start + width)
  else if first < 255 then
    .ok ((first - 128) * 256 + byteAt block (start + 1), start + width)
  else .ok (numberAt block (start + 1) 2 + 0x7F00, start + width)

/-! ## One sequence after another -/

/-- The three states and the bits they are fed from. -/
structure SequenceReader where
  literalState : Nat
  distanceState : Nat
  matchState : Nat
  bits : BackwardBits

def SequenceReader.start (tables : SequenceTables) (bits : BackwardBits) : SequenceReader :=
  let (literalState, bits) := tables.literal.firstState bits
  let (distanceState, bits) := tables.distance.firstState bits
  let (matchState, bits) := tables.matched.firstState bits
  { literalState, distanceState, matchState, bits }

/-- The states for the sequence after this one. -/
def SequenceReader.next (tables : SequenceTables) (reader : SequenceReader) : SequenceReader :=
  let (literalState, bits) := tables.literal.nextState reader.literalState reader.bits
  let (matchState, bits) := tables.matched.nextState reader.matchState bits
  let (distanceState, bits) := tables.distance.nextState reader.distanceState bits
  { literalState, distanceState, matchState, bits }

/-- What sequences have done so far: the content, the literals used, the space
left and the recent distances. -/
structure SequenceRun where
  history : History
  used : Nat
  space : Nat
  recent : RecentDistances

/-- Copies literals and then a match, unless there is no space for them, there are
too few literals, or the match reaches back too far. -/
def SequenceRun.step
    (literals : ByteArray)
    (run : SequenceRun)
    (literalLength matchLength distance : Nat)
    (recent : RecentDistances) :
    Except ExpandFault SequenceRun :=
  if run.space < literalLength + matchLength then .error .outputTooSmall
  else if literals.size < run.used + literalLength then .error .corrupted
  else
    let used := run.used + literalLength
    let history := run.history.append literals run.used used
    if distance = 0 ∨ history.reach < distance then .error .corrupted
    else
      .ok
        { history := history.repeatBack distance matchLength
          used
          space := run.space - (literalLength + matchLength)
          recent }

/-- Carries out the given number of sequences. All bits must be used. -/
def runSequences
    (tables : SequenceTables)
    (literals : ByteArray) :
    Nat → SequenceReader → SequenceRun → Except ExpandFault SequenceRun
  | 0, reader, run => if reader.bits.left = 0 then .ok run else .error .corrupted
  | following + 1, reader, run => do
      let bits := reader.bits
      let distanceCode := (tables.distance.cell reader.distanceState).symbol
      let matchRange := matchRanges.getD (tables.matched.cell reader.matchState).symbol ⟨0, 0⟩
      let literalRange := literalRanges.getD (tables.literal.cell reader.literalState).symbol ⟨0, 0⟩
      let value := powerOfTwo distanceCode + bits.peek distanceCode
      let bits := bits.skip distanceCode
      let matchLength := matchRange.first + bits.peek matchRange.width
      let bits := bits.skip matchRange.width
      let literalLength := literalRange.first + bits.peek literalRange.width
      let bits := bits.skip literalRange.width
      let (distance, recent1, recent2, recent3) :=
        resolveDistance value literalLength run.recent.first run.recent.second run.recent.third
      let run ← run.step literals literalLength matchLength distance ⟨recent1, recent2, recent3⟩
      let reader := { reader with bits }
      runSequences tables literals following
        (if following = 0 then reader else reader.next tables) run

/-- Appends the literals that no sequence has used. -/
def SequenceRun.finish (literals : ByteArray) (run : SequenceRun) : Except ExpandFault SequenceRun :=
  if run.space < literals.size - run.used then .error .outputTooSmall
  else .ok { run with history := run.history.append literals run.used literals.size }

end BlockCustody.Compression.Zstandard
