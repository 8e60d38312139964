import BlockCustody.Compression.Zstandard.Codes
import BlockCustody.Compression.Zstandard.Writing.Distribution
import BlockCustody.Compression.Zstandard.Writing.Effort
import BlockCustody.Compression.Zstandard.Writing.Matches
import BlockCustody.Compression.Zstandard.Writing.States

/-!
Contract: writing the sequences section of a block.

Owns:
- the codes of lengths and distances, and the bits that go with them;
- the choice of a table for each of the three kinds of codes;
- the order in which everything is written.

Does not own: how a block is cut into sequences.
-/

namespace BlockCustody.Compression.Zstandard

/-! ## Codes -/

/-- The last code whose range starts at or before a number. -/
def codeOf (ranges : Array CodeRange) (number : Nat) : Nat :=
  ranges.foldl (fun code range => if range.first ≤ number then code + 1 else code) 0 - 1

/-- The bits that say which number of a code's range is meant. -/
def fieldInRange (ranges : Array CodeRange) (code number : Nat) : BitField :=
  let range := ranges.getD code ⟨0, 0⟩
  { value := number - range.first, width := range.width }

/-- A sequence as codes, and the bits that go with them in reading order. -/
structure CodedSequence where
  literalCode : Nat
  distanceCode : Nat
  matchCode : Nat
  extra : List BitField

def Sequence.coded (sequence : Sequence) : CodedSequence :=
  let literalCode := codeOf literalRanges sequence.literalLength
  let distanceCode := Nat.log2 sequence.value
  let matchCode := codeOf matchRanges sequence.matchLength
  { literalCode
    distanceCode
    matchCode
    extra :=
      [ { value := sequence.value - powerOfTwo distanceCode, width := distanceCode },
        fieldInRange matchRanges matchCode sequence.matchLength,
        fieldInRange literalRanges literalCode sequence.literalLength ] }

/-! ## Tables -/

/-- A kind of codes: the table that needs no description, and the highest accuracy
of a table that has one. -/
structure CodeKind where
  default : StateTable
  highest : Nat

def literalKind : CodeKind :=
  { default := literalDefault, highest := 9 }

def distanceKind : CodeKind :=
  { default := distanceDefault, highest := 8 }

def matchKind : CodeKind :=
  { default := matchDefault, highest := 9 }

/-- Codes as a chain of states: the number that tells which kind of table is used,
the description of the table, and the accuracy of the table. -/
structure CodedChain where
  mode : Nat
  description : ByteArray
  accuracy : Nat
  chain : StateChain

namespace CodedChain

/-- How many bits it all takes. -/
def totalWidth (coded : CodedChain) : Nat :=
  8 * coded.description.size + coded.accuracy + BitField.totalWidth coded.chain.steps

def ofTable (mode : Nat) (description : ByteArray) (table : StateTable) (codes : List Nat) :
    CodedChain :=
  { mode
    description
    accuracy := table.accuracy
    chain := (StateChoice.ofTable table).chain codes }

def underDefault (kind : CodeKind) (codes : List Nat) : CodedChain :=
  ofTable 0 ByteArray.empty kind.default codes

/-- Codes that are all the same. -/
def underSingle (code : Nat) (codes : List Nat) : CodedChain :=
  ofTable 1 (ByteArray.empty.push code.toUInt8) (StateTable.ofSymbol code) codes

/-- So many codes have to be there for rare ones to be marked as such. -/
def marksRareFrom : Nat := 2048

/-- Codes under a table made for them. Its distribution leaves out the last code,
if it occurs more than once: the bits name the state of that one by themselves. -/
def underOwn (kind : CodeKind) (codes : List Nat) : CodedChain :=
  let counts := countSymbols codes
  let last := codes.getLastD 0
  let accuracy := accuracyFor kind.highest 2 codes.length (counts.length - 1)
  let isFrequent := 1 < counts.getD last 0
  let counts := if isFrequent then counts.modify last (· - 1) else counts
  let total := if isFrequent then codes.length - 1 else codes.length
  let shares := Distribution.normalize accuracy (decide (marksRareFrom ≤ total)) counts
  ofTable 2 (Distribution.describe accuracy shares) (StateTable.ofCounts accuracy shares) codes

/-- Whether a table of their own is not tried for so few codes, or for codes that
occur about equally often. -/
def isPlain (effort : Effort) (kind : CodeKind) (count most : Nat) : Bool :=
  count < powerOfTwo kind.default.accuracy * (10 - effort.rank) / 8 ||
    most < count / powerOfTwo (kind.default.accuracy - 1)

/-- Codes under the table that suits them. Up to the third rank the choice is a
rule of thumb; above it the shorter outcome wins. -/
def choose (effort : Effort) (kind : CodeKind) (codes : List Nat) : CodedChain :=
  let counts := countSymbols codes
  let most := counts.foldl max 0
  if most = codes.length then
    if codes.length ≤ 2 then underDefault kind codes else underSingle (counts.length - 1) codes
  else if effort.rank < 4 then
    if isPlain effort kind codes.length most then underDefault kind codes
    else underOwn kind codes
  else
    let common := underDefault kind codes
    let own := underOwn kind codes
    if common.totalWidth ≤ own.totalWidth then common else own

end CodedChain

/-! ## The section -/

namespace SequencesWriter

def countHeader (count : Nat) : ByteArray :=
  if count < 128 then BitField.pack [⟨count, 8⟩]
  else if count < 0x7F00 then BitField.pack [⟨count / 256 + 128, 8⟩, ⟨count % 256, 8⟩]
  else BitField.pack [⟨255, 8⟩, ⟨count - 0x7F00, 16⟩]

/-- The bits of sequences after the first states: those that go with each sequence,
then those that lead to the states of the next one. -/
def interleave : List CodedSequence → List BitField → List BitField → List BitField →
    List BitField
  | sequence :: rest, toLiteral :: literalSteps, toMatch :: matchSteps,
      toDistance :: distanceSteps =>
      sequence.extra ++ toLiteral :: toMatch :: toDistance ::
        interleave rest literalSteps matchSteps distanceSteps
  | sequence :: _, _, _, _ => sequence.extra
  | [], _, _, _ => []

/-- What is written last of the tables must not be too short together with the
bits that follow it. -/
def leastTail : Nat := 4

/-- The sequences section. There is none if it would end too close to the
description of its last table. -/
def write? (effort : Effort) (sequences : List Sequence) : Option ByteArray :=
  let header := countHeader sequences.length
  if sequences.isEmpty then some header
  else
    let coded := sequences.map Sequence.coded
    let literals := CodedChain.choose effort literalKind (coded.map (·.literalCode))
    let distances := CodedChain.choose effort distanceKind (coded.map (·.distanceCode))
    let copies := CodedChain.choose effort matchKind (coded.map (·.matchCode))
    let chains := [literals, distances, copies]
    let modes :=
      BitField.pack [⟨0, 2⟩, ⟨copies.mode, 2⟩, ⟨distances.mode, 2⟩, ⟨literals.mode, 2⟩]
    let stream := BitField.packBackward
      (chains.map (fun coded => coded.chain.startField coded.accuracy) ++
        interleave coded literals.chain.steps copies.chain.steps distances.chain.steps)
    let described := chains.filter fun coded => coded.mode = 2
    let endsTooSoon := described.getLast?.any fun coded =>
      coded.description.size + stream.size < leastTail
    if endsTooSoon then none
    else
      let descriptions := chains.foldl (fun written coded => written ++ coded.description)
        ByteArray.empty
      some (header ++ modes ++ descriptions ++ stream)

end SequencesWriter

end BlockCustody.Compression.Zstandard
