import BlockCustody.Digest.Blake2b

/-!
Contract: the memory-hard password digest Argon2id, version 0x13.

Owns:
- the 1 KiB block, its mixing, and the two passes over rows and columns;
- the choice of the reference block, independent of the password in the first
  half of the first pass and dependent on it afterwards;
- the digest of a password and salt for given cost parameters.

Does not own: which parameters a node uses.
-/

namespace BlockCustody.Key.Argon2id

/-- Sixteen words, one row of a block. -/
structure Row where
  w0 : UInt64
  w1 : UInt64
  w2 : UInt64
  w3 : UInt64
  w4 : UInt64
  w5 : UInt64
  w6 : UInt64
  w7 : UInt64
  w8 : UInt64
  w9 : UInt64
  w10 : UInt64
  w11 : UInt64
  w12 : UInt64
  w13 : UInt64
  w14 : UInt64
  w15 : UInt64

/-- A memory block of 1024 bytes as eight rows. -/
structure Block where
  r0 : Row
  r1 : Row
  r2 : Row
  r3 : Row
  r4 : Row
  r5 : Row
  r6 : Row
  r7 : Row

def Row.zero : Row :=
  ⟨0, 0, 0, 0, 0, 0, 0, 0, 0, 0, 0, 0, 0, 0, 0, 0⟩

def Block.zero : Block :=
  ⟨.zero, .zero, .zero, .zero, .zero, .zero, .zero, .zero⟩

/-! ## Mixing -/

def Row.xor (left right : Row) : Row :=
  { w0 := left.w0 ^^^ right.w0
    w1 := left.w1 ^^^ right.w1
    w2 := left.w2 ^^^ right.w2
    w3 := left.w3 ^^^ right.w3
    w4 := left.w4 ^^^ right.w4
    w5 := left.w5 ^^^ right.w5
    w6 := left.w6 ^^^ right.w6
    w7 := left.w7 ^^^ right.w7
    w8 := left.w8 ^^^ right.w8
    w9 := left.w9 ^^^ right.w9
    w10 := left.w10 ^^^ right.w10
    w11 := left.w11 ^^^ right.w11
    w12 := left.w12 ^^^ right.w12
    w13 := left.w13 ^^^ right.w13
    w14 := left.w14 ^^^ right.w14
    w15 := left.w15 ^^^ right.w15 }

def Block.xor (left right : Block) : Block :=
  { r0 := left.r0.xor right.r0
    r1 := left.r1.xor right.r1
    r2 := left.r2.xor right.r2
    r3 := left.r3.xor right.r3
    r4 := left.r4.xor right.r4
    r5 := left.r5.xor right.r5
    r6 := left.r6.xor right.r6
    r7 := left.r7.xor right.r7 }

@[inline]
def rotateRight (word amount : UInt64) : UInt64 :=
  (word >>> amount) ||| (word <<< (64 - amount))

/-- Addition made costly to invert by a product of the low halves. -/
@[inline]
def multiplyAdd (left right : UInt64) : UInt64 :=
  left + right + 2 * (left &&& 0xFFFFFFFF) * (right &&& 0xFFFFFFFF)

/-- Four working words, as the quarter step takes and returns them. -/
structure Quarter where
  a : UInt64
  b : UInt64
  c : UInt64
  d : UInt64

@[inline]
def quarterStep (a b c d : UInt64) : Quarter :=
  let a := multiplyAdd a b
  let d := rotateRight (d ^^^ a) 32
  let c := multiplyAdd c d
  let b := rotateRight (b ^^^ c) 24
  let a := multiplyAdd a b
  let d := rotateRight (d ^^^ a) 16
  let c := multiplyAdd c d
  let b := rotateRight (b ^^^ c) 63
  { a, b, c, d }

/-- Mixes the sixteen words of a row: the four columns of a square of words,
then its four diagonals. -/
def Row.mix (row : Row) : Row :=
  let column0 := quarterStep row.w0 row.w4 row.w8 row.w12
  let column1 := quarterStep row.w1 row.w5 row.w9 row.w13
  let column2 := quarterStep row.w2 row.w6 row.w10 row.w14
  let column3 := quarterStep row.w3 row.w7 row.w11 row.w15
  let diagonal0 := quarterStep column0.a column1.b column2.c column3.d
  let diagonal1 := quarterStep column1.a column2.b column3.c column0.d
  let diagonal2 := quarterStep column2.a column3.b column0.c column1.d
  let diagonal3 := quarterStep column3.a column0.b column1.c column2.d
  { w0 := diagonal0.a
    w1 := diagonal1.a
    w2 := diagonal2.a
    w3 := diagonal3.a
    w4 := diagonal3.b
    w5 := diagonal0.b
    w6 := diagonal1.b
    w7 := diagonal2.b
    w8 := diagonal2.c
    w9 := diagonal3.c
    w10 := diagonal0.c
    w11 := diagonal1.c
    w12 := diagonal1.d
    w13 := diagonal2.d
    w14 := diagonal3.d
    w15 := diagonal0.d }

def Block.mixRows (block : Block) : Block :=
  { r0 := block.r0.mix
    r1 := block.r1.mix
    r2 := block.r2.mix
    r3 := block.r3.mix
    r4 := block.r4.mix
    r5 := block.r5.mix
    r6 := block.r6.mix
    r7 := block.r7.mix }

/-- Two words of every row. -/
@[inline]
def Block.column (block : Block) (left right : Row → UInt64) : Row :=
  ⟨left block.r0, right block.r0, left block.r1, right block.r1,
    left block.r2, right block.r2, left block.r3, right block.r3,
    left block.r4, right block.r4, left block.r5, right block.r5,
    left block.r6, right block.r6, left block.r7, right block.r7⟩

/-- Rows become columns, where a column is made of pairs of neighbouring words. -/
def Block.transpose (block : Block) : Block :=
  { r0 := block.column (·.w0) (·.w1)
    r1 := block.column (·.w2) (·.w3)
    r2 := block.column (·.w4) (·.w5)
    r3 := block.column (·.w6) (·.w7)
    r4 := block.column (·.w8) (·.w9)
    r5 := block.column (·.w10) (·.w11)
    r6 := block.column (·.w12) (·.w13)
    r7 := block.column (·.w14) (·.w15) }

/-- The compression of two blocks into one. -/
def Block.combine (left right : Block) : Block :=
  let start := left.xor right
  start.xor start.mixRows.transpose.mixRows.transpose

/-! ## Blocks as bytes -/

def wordAt (bytes : Bytes) (index : Nat) : UInt64 :=
  (LittleEndian.decode ((bytes.drop (8 * index)).take 8)).toUInt64

def Row.ofBytes (bytes : Bytes) : Row :=
  ⟨wordAt bytes 0, wordAt bytes 1, wordAt bytes 2, wordAt bytes 3,
    wordAt bytes 4, wordAt bytes 5, wordAt bytes 6, wordAt bytes 7,
    wordAt bytes 8, wordAt bytes 9, wordAt bytes 10, wordAt bytes 11,
    wordAt bytes 12, wordAt bytes 13, wordAt bytes 14, wordAt bytes 15⟩

def Block.ofBytes (bytes : Bytes) : Block :=
  ⟨Row.ofBytes (bytes.drop 0), Row.ofBytes (bytes.drop 128),
    Row.ofBytes (bytes.drop 256), Row.ofBytes (bytes.drop 384),
    Row.ofBytes (bytes.drop 512), Row.ofBytes (bytes.drop 640),
    Row.ofBytes (bytes.drop 768), Row.ofBytes (bytes.drop 896)⟩

def Row.words (row : Row) : List UInt64 :=
  [ row.w0, row.w1, row.w2, row.w3, row.w4, row.w5, row.w6, row.w7,
    row.w8, row.w9, row.w10, row.w11, row.w12, row.w13, row.w14, row.w15 ]

def Block.words (block : Block) : List UInt64 :=
  block.r0.words ++ block.r1.words ++ block.r2.words ++ block.r3.words ++
    block.r4.words ++ block.r5.words ++ block.r6.words ++ block.r7.words

def Block.toBytes (block : Block) : Bytes :=
  block.words.flatMap fun word => LittleEndian.encode 8 word.toNat

/-! ## The variable-length digest -/

/-- All but the last part of a long output: the first half of each link of a
chain of digests. -/
def longOutput : Nat → Nat → Bytes → Bytes
  | 0, remaining, link => Digest.Blake2b.hash remaining link
  | links + 1, remaining, link =>
      let value := Digest.Blake2b.hash 64 link
      value.take 32 ++ longOutput links (remaining - 32) value

/-- A digest of any length. -/
def longHash (length : Nat) (bytes : Bytes) : Bytes :=
  let input := LittleEndian.encode 4 length ++ bytes
  if length ≤ 64 then Digest.Blake2b.hash length input
  else longOutput ((length - 33) / 32) length input

/-! ## Filling the memory -/

/-- The cost parameters and the length of the digest. -/
structure Parameters where
  memoryKiB : Nat
  passes : Nat
  lanes : Nat
  digestLength : Nat

namespace Parameters

/-- Blocks of a quarter of a lane. -/
def segmentLength (parameters : Parameters) : Nat :=
  parameters.memoryKiB / (4 * parameters.lanes)

def laneLength (parameters : Parameters) : Nat :=
  4 * parameters.segmentLength

def blockCount (parameters : Parameters) : Nat :=
  parameters.lanes * parameters.laneLength

end Parameters

/-- The place of a segment: its pass, its lane and which quarter of the lane. -/
structure Segment where
  pass : Nat
  lane : Nat
  quarter : Nat

/-- Whether the reference blocks of a segment are chosen without looking at the
memory, so that the access pattern does not depend on the password. -/
def Segment.isIndependent (segment : Segment) : Bool :=
  segment.pass = 0 && segment.quarter < 2

/-- A block of 128 pseudo-random words for password-independent choices. -/
def addressBlock (parameters : Parameters) (segment : Segment) (counter : Nat) : Array UInt64 :=
  let header : Row :=
    { Row.zero with
      w0 := segment.pass.toUInt64
      w1 := segment.lane.toUInt64
      w2 := segment.quarter.toUInt64
      w3 := parameters.blockCount.toUInt64
      w4 := parameters.passes.toUInt64
      w5 := 2
      w6 := counter.toUInt64 }
  let input := { Block.zero with r0 := header }
  (Block.zero.combine (Block.zero.combine input)).words.toArray

/-- The position in memory of the reference block that a pseudo-random word
picks for position `index` of a segment. -/
def referencePosition
    (parameters : Parameters)
    (segment : Segment)
    (index : Nat)
    (random : UInt64) :
    Nat :=
  let segmentLength := parameters.segmentLength
  let laneLength := parameters.laneLength
  let isFirst := segment.pass = 0 ∧ segment.quarter = 0
  let lane :=
    if isFirst then segment.lane else (random >>> 32).toNat % parameters.lanes
  let finished :=
    if segment.pass = 0 then segment.quarter * segmentLength else laneLength - segmentLength
  let candidates :=
    if lane = segment.lane then finished + index - 1
    else if index = 0 then finished - 1
    else finished
  let low := random &&& 0xFFFFFFFF
  let square := (low * low) >>> 32
  let offset := candidates - 1 - (candidates * square.toNat) / 0x100000000
  let start :=
    if segment.pass = 0 ∨ segment.quarter = 3 then 0 else (segment.quarter + 1) * segmentLength
  lane * laneLength + (start + offset) % laneLength

/-- Fills the remaining blocks of a segment from position `index` on. -/
def fillBlocks
    (parameters : Parameters)
    (segment : Segment) :
    Nat → Nat → Array UInt64 → Array Block → Array Block
  | 0, _, _, memory => memory
  | remaining + 1, index, addresses, memory =>
      let laneStart := segment.lane * parameters.laneLength
      let column := segment.quarter * parameters.segmentLength + index
      let previousColumn := if column = 0 then parameters.laneLength - 1 else column - 1
      let previous := memory.getD (laneStart + previousColumn) Block.zero
      let addresses :=
        if segment.isIndependent && index % 128 = 0 then
          addressBlock parameters segment (index / 128 + 1)
        else addresses
      let random :=
        if segment.isIndependent then addresses.getD (index % 128) 0 else previous.r0.w0
      let reference := memory.getD (referencePosition parameters segment index random) Block.zero
      let block := previous.combine reference
      let position := laneStart + column
      let block := if segment.pass = 0 then block else block.xor (memory.getD position Block.zero)
      fillBlocks parameters segment remaining (index + 1) addresses
        (memory.setIfInBounds position block)

/-- Fills one segment. The first two blocks of every lane are there already. -/
def fillSegment
    (parameters : Parameters)
    (memory : Array Block)
    (segment : Segment) :
    Array Block :=
  if segment.pass = 0 ∧ segment.quarter = 0 then
    fillBlocks parameters segment (parameters.segmentLength - 2) 2
      (addressBlock parameters segment 1) memory
  else fillBlocks parameters segment parameters.segmentLength 0 #[] memory

/-- All segments in the order in which they are filled. -/
def segments (parameters : Parameters) : List Segment :=
  (List.range parameters.passes).flatMap fun pass =>
    (List.range 4).flatMap fun quarter =>
      (List.range parameters.lanes).map fun lane => { pass, lane, quarter }

/-- The digest that everything else grows from. -/
def seedDigest (parameters : Parameters) (password salt : Bytes) : Bytes :=
  let number (value : Nat) := LittleEndian.encode 4 value
  Digest.Blake2b.hash 64
    (number parameters.lanes ++ number parameters.digestLength ++ number parameters.memoryKiB ++
      number parameters.passes ++ number 0x13 ++ number 2 ++
      number password.length ++ password ++ number salt.length ++ salt ++ number 0 ++ number 0)

/-- The first two blocks of every lane, zeros elsewhere. -/
def startMemory (parameters : Parameters) (seed : Bytes) : Array Block :=
  let start (memory : Array Block) (lane column : Nat) : Array Block :=
    memory.setIfInBounds (lane * parameters.laneLength + column)
      (Block.ofBytes
        (longHash 1024 (seed ++ LittleEndian.encode 4 column ++ LittleEndian.encode 4 lane)))
  (List.range parameters.lanes).foldl
    (fun memory lane => start (start memory lane 0) lane 1)
    (Array.replicate parameters.blockCount Block.zero)

/-- The digest of a password and salt. -/
def hash (parameters : Parameters) (password salt : Bytes) : Bytes :=
  let memory :=
    (segments parameters).foldl (fillSegment parameters)
      (startMemory parameters (seedDigest parameters password salt))
  let last :=
    (List.range parameters.lanes).foldl
      (fun block lane =>
        block.xor (memory.getD ((lane + 1) * parameters.laneLength - 1) Block.zero))
      Block.zero
  longHash parameters.digestLength last.toBytes

end BlockCustody.Key.Argon2id
