import BlockCustody.Compression.Zstandard.PrefixStreams

/-!
Contract: the earlier formats of frames.

Owns:
- the four formats that are still read, and the mark of each;
- the distributions and prefix codes as they were written then.

Does not own: literals, sequences and frames.
-/

namespace BlockCustody.Compression.Zstandard.Early

open CodeTable (ExpectedTime TimeTable)

/-- The formats before the present one that are still read, by their numbers. -/
inductive Format where
  | four
  | five
  | six
  | seven
deriving DecidableEq, Repr

/-- The format whose frames start with the given four bytes. -/
def Format.ofMark? : Bytes → Option Format
  | [0x24, 0xB5, 0x2F, 0xFD] => some .four
  | [0x25, 0xB5, 0x2F, 0xFD] => some .five
  | [0x26, 0xB5, 0x2F, 0xFD] => some .six
  | [0x27, 0xB5, 0x2F, 0xFD] => some .seven
  | _ => none

/-- The marks of formats that are known and no longer read. -/
def abandonedMarks : List Bytes :=
  [[0xFD, 0x2F, 0xB5, 0x1E], [0x22, 0xB5, 0x2F, 0xFD], [0x23, 0xB5, 0x2F, 0xFD]]

/-! ## Distributions -/

/-- A distribution as it is written: the accuracy it asks for, its counts, and
the position after it. -/
structure WrittenCounts where
  accuracy : Nat
  counts : List Int
  stop : Nat

/-- Reads a distribution that starts at byte `start` and lies before byte `stop`. -/
def WrittenCounts.read?
    (data : ByteArray)
    (start stop symbolLimit : Nat) :
    Option WrittenCounts := do
  let written := data.extract start stop
  guard (4 ≤ written.size)
  let accuracy := 5 + bitsAt written 0 4
  guard (accuracy ≤ 15)
  let (counts, position) ←
    StateTable.readCounts written id symbolLimit (symbolLimit + 1) 4 (powerOfTwo accuracy) []
  let used := (position + 7) / 8
  guard (used ≤ written.size)
  return { accuracy, counts, stop := start + used }

def WrittenCounts.table (written : WrittenCounts) : StateTable :=
  StateTable.ofCounts written.accuracy written.counts

/-- The state given by the first bits of a stream, which is padded with zeros. -/
def firstState (table : StateTable) (bits : BackwardBits) : Nat × BackwardBits :=
  (bits.peek table.accuracy, bits.skip table.accuracy)

/-! ## Prefix codes -/

/-- Weights under the finite-state code whose states end where they began: two
states take turns until the bits are used up and both are zero. -/
def returningWeights
    (table : StateTable) :
    Nat → Nat → Nat → BackwardBits → List Nat → Except ExpandFault (List Nat)
  | 0, current, other, bits, weights =>
      if bits.left = 0 ∧ current = 0 ∧ other = 0 then .ok weights.reverse
      else .error .corrupted
  | steps + 1, current, other, bits, weights =>
      if bits.left < 0 then .error .corrupted
      else if bits.left = 0 ∧ current = 0 then
        if other = 0 then .ok weights.reverse else .error .corrupted
      else
        let weights := (table.cell current).symbol :: weights
        let (next, bits) := table.nextState current bits
        returningWeights table steps other next bits weights

/-- Weights that are all one, of which there may be these numbers. -/
def evenCounts : Array Nat :=
  #[1, 2, 3, 4, 7, 8, 15, 16, 31, 32, 63, 64, 127, 128]

/-- Reads the weights of a code between two positions, and the position after them. -/
def readWeights (format : Format) (data : ByteArray) (start stop : Nat) :
    Except ExpandFault (List Nat × Nat) := do
  if stop ≤ start then throw .corrupted
  let header := byteAt data start
  if 242 ≤ header then
    return (List.replicate (evenCounts.getD (header - 242) 0) 1, start + 1)
  else if 128 ≤ header then
    let count := header - 127
    let after := start + 1 + (count + 1) / 2
    if stop < after then throw .corrupted
    return (CodeTable.plainWeights data (start + 1) count, after)
  else
    let after := start + 1 + header
    if stop < after then throw .corrupted
    let some written := WrittenCounts.read? data (start + 1) after 256 | throw .corrupted
    if 12 < written.accuracy then throw .corrupted
    let table := written.table
    let bits ← BackwardBits.ofBytes? data written.stop after
    let (first, bits) := firstState table bits
    let (second, bits) := firstState table bits
    match format with
    | .four | .five => return (← returningWeights table 255 first second bits [], after)
    | .six | .seven => return (← CodeTable.codedWeights table 256 first second bits [], after)

/-- Reads the description of a code, which is used with the deepest tables. -/
def readCode (format : Format) (data : ByteArray) (start stop : Nat) :
    Except ExpandFault (CodeTable × Nat) := do
  let (weights, after) ← readWeights format data start stop
  return (← CodeTable.ofWeights CodeTable.greatestDepth weights, after)

/-! ## The choice between one symbol and two -/

/-- The times with single symbols, by sixteenths of the size before coding. -/
def singleTimes : Array ExpectedTime :=
  #[⟨0, 0⟩, ⟨0, 0⟩, ⟨38, 130⟩, ⟨448, 128⟩, ⟨556, 128⟩, ⟨714, 128⟩, ⟨883, 128⟩, ⟨897, 128⟩,
    ⟨926, 128⟩, ⟨947, 128⟩, ⟨1107, 128⟩, ⟨1177, 128⟩, ⟨1242, 128⟩, ⟨1349, 128⟩, ⟨1455, 128⟩,
    ⟨722, 128⟩]

/-- The times with pairs of symbols, likewise. -/
def pairTimes : Array ExpectedTime :=
  #[⟨1, 1⟩, ⟨1, 1⟩, ⟨1313, 74⟩, ⟨1353, 74⟩, ⟨1353, 74⟩, ⟨1418, 74⟩, ⟨1437, 74⟩, ⟨1515, 75⟩,
    ⟨1613, 75⟩, ⟨1729, 77⟩, ⟨2083, 81⟩, ⟨2379, 87⟩, ⟨2415, 93⟩, ⟨2644, 106⟩, ⟨2422, 124⟩,
    ⟨1891, 145⟩]

def Format.times : Format → TimeTable
  | .seven => { single := singleTimes, pair := pairTimes, handicap := 8 }
  | _ => { single := singleTimes, pair := pairTimes, handicap := 16 }

end BlockCustody.Compression.Zstandard.Early
