import BlockCustody.Compression.Zstandard.Early.Format
import BlockCustody.Compression.Zstandard.Sequences

/-!
Contract: the sequences sections of the sixth and seventh format.

Owns:
- the head of the section, whose tables are announced by other numbers;
- the distances that written values stand for;
- carrying out the sequences, for which some space must remain.

Does not own: the older formats, in which long lengths stand aside.
-/

namespace BlockCustody.Compression.Zstandard.Early

/-! ## Carrying out -/

/-- Copies literals and then a match. The literals must not come too close to the
end of the space. -/
def stepRun
    (literals : ByteArray)
    (run : SequenceRun)
    (literalLength matchLength distance : Nat)
    (recent : RecentDistances) :
    Except ExpandFault SequenceRun :=
  if run.space < literalLength + matchLength then .error .outputTooSmall
  else if literals.size < run.used + literalLength then .error .corrupted
  else if run.space < literalLength + 8 then .error .outputTooSmall
  else run.step literals literalLength matchLength distance recent

/-! ## The head of the section -/

/-- Reads one of the three tables. The mode says whether it is the default one,
that of a single symbol, the last one again, or one written out. -/
def readTable
    (block : ByteArray)
    (start mode symbolLimit accuracyLimit : Nat)
    (standard : StateTable)
    (last : Option StateTable) :
    Except ExpandFault (StateTable × Nat) :=
  match mode with
  | 0 => .ok (standard, start)
  | 1 =>
      if block.size ≤ start ∨ symbolLimit ≤ byteAt block start then .error .corrupted
      else .ok (StateTable.ofSymbol (byteAt block start), start + 1)
  | 2 =>
      match last with
      | some table => .ok (table, start)
      | none => .error .corrupted
  | _ =>
      match WrittenCounts.read? block start block.size symbolLimit with
      | none => .error .corrupted
      | some written =>
          if accuracyLimit < written.accuracy then .error .corrupted
          else .ok (written.table, written.stop)

/-- Reads the three tables, preceded by their modes. -/
def readTables (block : ByteArray) (start : Nat) (last : Option SequenceTables) :
    Except ExpandFault (SequenceTables × Nat) := do
  if block.size < start + 4 then throw .wrongSize
  let modes := byteAt block start
  let (literal, position) ←
    readTable block (start + 1) (modes / 64) 36 9 literalDefault (last.map (·.literal))
  let (distance, position) ←
    readTable block position (modes / 16 % 4) 29 8 distanceDefault (last.map (·.distance))
  let (matched, position) ←
    readTable block position (modes / 4 % 4) 53 9 matchDefault (last.map (·.matched))
  return ({ literal, distance, matched }, position)

/-! ## Distances -/

/-- Codes of distances with fewer bits than this stand for distances; the two
beyond it read as if they had base one. -/
def distanceCodeLimit : Nat := 27

/-- The distance that a code and its bits stand for, and the recent distances
after it. Without literals before the match, the first two recent distances
change places. -/
def resolveDistance (code bits literalCode : Nat) (recent : RecentDistances) :
    Nat × RecentDistances :=
  if 1 < code then
    let distance := if code < distanceCodeLimit then powerOfTwo code + bits - 3 else 1 + bits
    (distance, ⟨distance, recent.first, recent.second⟩)
  else
    let index := if code = 0 then 0 else 1 + bits
    match if literalCode = 0 ∧ index ≤ 1 then 1 - index else index with
    | 0 => (recent.first, recent)
    | 1 => (recent.second, ⟨recent.second, recent.first, recent.third⟩)
    | _ => (recent.third, ⟨recent.third, recent.first, recent.second⟩)

/-! ## One sequence after another -/

def startReader (tables : SequenceTables) (bits : BackwardBits) : SequenceReader :=
  let (literalState, bits) := firstState tables.literal bits
  let (distanceState, bits) := firstState tables.distance bits
  let (matchState, bits) := firstState tables.matched bits
  { literalState, distanceState, matchState, bits }

/-- Carries out the given number of sequences. None may begin after the bits have
run out; the last one may end so, and bits may be left over. -/
def runSequences
    (tables : SequenceTables)
    (literals : ByteArray) :
    Nat → SequenceReader → SequenceRun → Except ExpandFault SequenceRun
  | 0, _, run => .ok run
  | following + 1, reader, run => do
      let bits := reader.bits
      if bits.left < 0 then throw .corrupted
      let literalCode := (tables.literal.cell reader.literalState).symbol
      let distanceCode := (tables.distance.cell reader.distanceState).symbol
      let matchRange := matchRanges.getD (tables.matched.cell reader.matchState).symbol ⟨0, 0⟩
      let literalRange := literalRanges.getD literalCode ⟨0, 0⟩
      let distanceBits := bits.peek distanceCode
      let bits := bits.skip distanceCode
      let matchLength := matchRange.first + bits.peek matchRange.width
      let bits := bits.skip matchRange.width
      let literalLength := literalRange.first + bits.peek literalRange.width
      let bits := bits.skip literalRange.width
      let (distance, recent) :=
        resolveDistance distanceCode distanceBits literalCode run.recent
      let run ← stepRun literals run literalLength matchLength distance recent
      let reader := { reader with bits }
      runSequences tables literals following (reader.next tables) run

/-- Carries out the section that starts at a position, and appends the literals
it leaves. Returns the tables for the next block too. -/
def expandSequences
    (block : ByteArray)
    (start : Nat)
    (literals : ByteArray)
    (last : Option SequenceTables)
    (run : SequenceRun) :
    Except ExpandFault (SequenceRun × Option SequenceTables) := do
  if block.size ≤ start then throw .wrongSize
  if byteAt block start = 0 then return (← run.finish literals, last)
  let (count, position) ← readSequenceCount block start
  let (tables, position) ← readTables block position last
  if count = 0 then return (← run.finish literals, last.map fun _ => tables)
  let bits ← BackwardBits.ofBytes? block position block.size
  let run ← runSequences tables literals count (startReader tables bits) run
  return (← run.finish literals, some tables)

end BlockCustody.Compression.Zstandard.Early
