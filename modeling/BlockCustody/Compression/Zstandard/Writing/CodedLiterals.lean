import BlockCustody.Compression.Zstandard.Writing.CodeWords
import BlockCustody.Compression.Zstandard.Writing.Effort

/-!
Contract: writing the literals section of a block.

Owns:
- its plain, repeated and coded form;
- the choice among them.

Does not own: which bytes of a block are literals.
-/

namespace BlockCustody.Compression.Zstandard

/-- How often each byte occurs, up to the largest one. -/
def countBytes (bytes : ByteArray) : List Nat :=
  let counts := bytes.foldl
    (fun (counts : Array Nat) byte => counts.modify byte.toNat (· + 1))
    (Array.replicate 256 0)
  (counts.toList.reverse.dropWhile (· = 0)).reverse

namespace LiteralsWriter

/-- The header of literals that are not coded. -/
def plainHeader (kind size : Nat) : ByteArray :=
  if size < 32 then BitField.pack [⟨kind, 2⟩, ⟨0, 1⟩, ⟨size, 5⟩]
  else if size < 4096 then BitField.pack [⟨kind, 2⟩, ⟨1, 2⟩, ⟨size, 12⟩]
  else BitField.pack [⟨kind, 2⟩, ⟨3, 2⟩, ⟨size, 20⟩]

def plain (literals : ByteArray) : ByteArray :=
  plainHeader 0 literals.size ++ literals

/-- One literal many times. -/
def repeated (byte : UInt8) (size : Nat) : ByteArray :=
  (plainHeader 1 size).push byte

/-- The width of the header of coded literals. -/
def codedHeaderWidth (size : Nat) : Nat :=
  if size < 1024 then 3 else if size < 16384 then 4 else 5

/-- Up to this many literals are written in one stream. -/
def singleStreamLimit : Nat := 256

def codedHeader (size codedSize : Nat) : ByteArray :=
  let header (format sizeBits : Nat) : ByteArray :=
    BitField.pack [⟨2, 2⟩, ⟨format, 2⟩, ⟨size, sizeBits⟩, ⟨codedSize, sizeBits⟩]
  if size < singleStreamLimit then header 0 10
  else
    match codedHeaderWidth size with
    | 3 => header 1 10
    | 4 => header 2 14
    | _ => header 3 18

/-- The code words of literals between two positions. -/
def stream (table : WordTable) (literals : ByteArray) (start stop : Nat) : ByteArray :=
  BitField.packBackward
    ((literals.extract start stop).data.toList.map fun byte => table.word byte.toNat)

/-- Four streams for the four quarters of the literals, after the sizes of the
first three. -/
def fourStreams (table : WordTable) (literals : ByteArray) : ByteArray :=
  let quarter := (literals.size + 3) / 4
  let part (index : Nat) : ByteArray :=
    stream table literals (index * quarter) (min literals.size ((index + 1) * quarter))
  let first := part 0
  let second := part 1
  let third := part 2
  BitField.pack [⟨first.size, 16⟩, ⟨second.size, 16⟩, ⟨third.size, 16⟩] ++
    first ++ second ++ third ++ part 3

/-- The best code with words of at least `depth` bits and at most `depth + more`,
as long as longer words make the literals shorter. -/
def deepen (counts : List Nat) : Nat → Nat → WordTable → Nat → WordTable
  | 0, _, best, _ => best
  | more + 1, depth, best, bestSize =>
      let table := WordTable.ofCounts depth counts
      if table.longest < depth then best
      else
        match table.description? with
        | none => best
        | some description =>
            let size := description.size + table.totalWidth counts / 8
            if bestSize + 1 < size then best
            else if size < bestSize then deepen counts more (depth + 1) table size
            else deepen counts more (depth + 1) best bestSize

/-- The code for literals that occur as often as given. -/
def codeFor (effort : Effort) (size : Nat) (counts : List Nat) : WordTable :=
  let usual := WordTable.ofCounts (accuracyFor 11 1 size (counts.length - 1)) counts
  if effort.rank < 8 then usual
  else
    let present := (counts.filter (0 < ·)).length
    let least := Nat.log2 present + 1
    let first := WordTable.ofCounts least counts
    match first.description? with
    | none => usual
    | some description =>
        deepen counts (11 - least) (least + 1) first
          (description.size + first.totalWidth counts / 8)

/-- Coded literals without their header, unless they are about as long as the
literals themselves. -/
def coded? (effort : Effort) (literals : ByteArray) (counts : List Nat) : Option ByteArray := do
  let size := literals.size
  let table := codeFor effort size counts
  let description ← table.description?
  if size ≤ description.size + 12 then none
  else
    let streams :=
      if size < singleStreamLimit then stream table literals 0 size
      else fourStreams table literals
    let content := description ++ streams
    if size ≤ content.size + 1 ∨ size ≤ content.size + effort.leastGain size then none
    else some content

/-- How many bytes are looked at, at either end, where literals are not expected
to be worth coding. -/
def sampleSize : Nat := 4096

/-- Whether all bytes occur about equally often: in the literals, or already in
samples of them if `isDoubtful`. -/
def isEven (isDoubtful : Bool) (literals : ByteArray) (largest : Nat) : Bool :=
  let size := literals.size
  let largestOf (start stop : Nat) : Nat :=
    (countBytes (literals.extract start stop)).foldl max 0
  let samplesAreEven :=
    largestOf 0 sampleSize + largestOf (size - sampleSize) size ≤ 2 * sampleSize / 128 + 4
  largest ≤ size / 128 + 4 || (isDoubtful && 10 * sampleSize ≤ size && samplesAreEven)

/-- The literals section. `isDoubtful` says that hardly any matches were found. -/
def write (effort : Effort) (isDoubtful : Bool) (literals : ByteArray) : ByteArray :=
  let size := literals.size
  if !effort.codesLiterals || size < effort.leastLiterals then plain literals
  else
    let counts := countBytes literals
    let largest := counts.foldl max 0
    if largest = size then
      if effort.leastGain size + 1 < size then repeated (counts.length - 1).toUInt8 size
      else plain literals
    else if isEven isDoubtful literals largest then plain literals
    else
      match coded? effort literals counts with
      | some content => codedHeader size content.size ++ content
      | none => plain literals

end LiteralsWriter

end BlockCustody.Compression.Zstandard
