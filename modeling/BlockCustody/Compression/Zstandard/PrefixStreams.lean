import BlockCustody.Compression.Zstandard.PrefixCode

/-!
Contract: streams of symbols under a prefix code.

Owns:
- decoding of a single stream, one symbol or two at a look;
- decoding of four streams in step, as long as none can leave the section;
- which of the two ways of looking is taken for a section of given sizes.

Does not own: the header of the section, and the code itself.
-/

namespace BlockCustody.Compression.Zstandard.CodeTable

/-! ## One look at the table -/

def cell (table : CodeTable) (value : Nat) : CodeCell :=
  table.cells.getD value { symbol := 0, width := 0 }

/-- The second symbol of a look, if its word fits beside that of the first. -/
def second? (table : CodeTable) (value : Nat) (first : CodeCell) : Option CodeCell :=
  let second := table.cell (value * powerOfTwo first.width % powerOfTwo table.depth)
  if table.inPairs && first.width + second.width ≤ table.depth then some second else none

/-- Takes what one look yields. -/
def look (table : CodeTable) (bits : BackwardBits) (decoded : ByteArray) :
    BackwardBits × ByteArray :=
  let value := bits.peek table.depth
  let first := table.cell value
  match table.second? value first with
  | some second =>
      (bits.skip (first.width + second.width), (decoded.push first.symbol).push second.symbol)
  | none => (bits.skip first.width, decoded.push first.symbol)

/-- Takes several looks. -/
def looks (table : CodeTable) : Nat → BackwardBits → ByteArray → BackwardBits × ByteArray
  | 0, bits, decoded => (bits, decoded)
  | count + 1, bits, decoded =>
      let (bits, decoded) := table.look bits decoded
      looks table count bits decoded

/-! ## One stream -/

/-- The bits left after the last symbol, of which only the first of a pair is
wanted. The word of the other one counts as read, as far as there are bits. -/
def skipLast (table : CodeTable) (value : Nat) (first : CodeCell) (bits : BackwardBits) :
    BackwardBits :=
  match table.second? value first with
  | some second =>
      if bits.left ≤ 0 then bits
      else { bits with left := max 0 (bits.left - (first.width + second.width : Nat)) }
  | none => bits.skip first.width

/-- Decodes a number of symbols onto the end of an array. Returns the bits left. -/
def decodeSymbols (table : CodeTable) :
    Nat → BackwardBits → ByteArray → BackwardBits × ByteArray
  | 0, bits, decoded => (bits, decoded)
  | 1, bits, decoded =>
      let value := bits.peek table.depth
      let first := table.cell value
      (table.skipLast value first bits, decoded.push first.symbol)
  | count + 2, bits, decoded =>
      let value := bits.peek table.depth
      let first := table.cell value
      match table.second? value first with
      | some second =>
          decodeSymbols table count (bits.skip (first.width + second.width))
            ((decoded.push first.symbol).push second.symbol)
      | none =>
          decodeSymbols table (count + 1) (bits.skip first.width) (decoded.push first.symbol)

/-- Decodes the stream between two positions onto the end of an array. All bits
must be used. -/
def decodeStream
    (table : CodeTable)
    (content : ByteArray)
    (start stop count : Nat)
    (decoded : ByteArray) :
    Except ExpandFault ByteArray := do
  let bits ← BackwardBits.ofBytes? content start stop
  let (bits, decoded) := table.decodeSymbols count bits decoded
  if bits.left = 0 then return decoded else throw .corrupted

/-! ## Four streams in step -/

/-- One of the streams that are decoded in step: its place in the section, the
number of its symbols, those decoded so far, and where the eight bytes at hand
begin. Its bits reach down to the start of the section. -/
structure SteppedStream where
  start : Nat
  count : Nat
  word : Nat
  bits : BackwardBits
  decoded : ByteArray

namespace SteppedStream

/-- The stream between two positions. Unlike elsewhere, the last byte may be zero. -/
def ofBytes (content : ByteArray) (start stop count : Nat) : SteppedStream :=
  let last := byteAt content (stop - 1)
  let left := if last = 0 then 8 * stop else 8 * (stop - 1) + Nat.log2 last
  { start
    count
    word := stop - 8
    bits := { data := content, start := 0, left, lowest := wordAt content 0 }
    decoded := ByteArray.empty }

def missing (stream : SteppedStream) : Nat :=
  stream.count - stream.decoded.size

/-- Five looks, after which eight bytes are taken up anew. -/
def advance (table : CodeTable) (stream : SteppedStream) : SteppedStream :=
  let (bits, decoded) := table.looks 5 stream.bits stream.decoded
  { stream with bits, decoded, word := (bits.left.toNat + 7) / 8 - 8 }

/-- Decodes the symbols still missing. A stream that has read further than its
own bytes is refused; one that has bits left is not. -/
def finish (table : CodeTable) (stream : SteppedStream) : Except ExpandFault ByteArray :=
  if stream.word + 8 < stream.start then .error .corrupted
  else .ok (table.decodeSymbols stream.missing stream.bits stream.decoded).2

end SteppedStream

structure SteppedStreams where
  first : SteppedStream
  second : SteppedStream
  third : SteppedStream
  fourth : SteppedStream

namespace SteppedStreams

/-- How many times all streams can surely take five looks: none reads below the
section, and none decodes more symbols than it has. -/
def sureRounds (table : CodeTable) (streams : SteppedStreams) : Nat :=
  let byOutput :=
    if table.inPairs then
      min (min streams.first.missing streams.second.missing)
        (min streams.third.missing streams.fourth.missing) / 10
    else streams.fourth.missing / 5
  min byOutput (streams.first.word / 7)

/-- Whether no stream has overtaken the one before it. -/
def inOrder (streams : SteppedStreams) : Bool :=
  streams.first.word ≤ streams.second.word && streams.second.word ≤ streams.third.word &&
    streams.third.word ≤ streams.fourth.word

/-- At most the given number of rounds, which end when the last stream has as many
symbols as the limit says. -/
def advance (table : CodeTable) (limit : Nat) : Nat → SteppedStreams → SteppedStreams
  | 0, streams => streams
  | rounds + 1, streams =>
      let streams : SteppedStreams :=
        { first := streams.first.advance table
          second := streams.second.advance table
          third := streams.third.advance table
          fourth := streams.fourth.advance table }
      if limit ≤ streams.fourth.decoded.size then streams
      else advance table limit rounds streams

/-- Advances until a round is no longer sure. The first argument bounds the steps. -/
def advanceAll (table : CodeTable) : Nat → SteppedStreams → SteppedStreams
  | 0, streams => streams
  | steps + 1, streams =>
      let rounds := streams.sureRounds table
      if rounds = 0 ∨ ¬ streams.inOrder then streams
      else
        let limit := streams.fourth.decoded.size + 5 * rounds
        advanceAll table steps (streams.advance table limit rounds)

end SteppedStreams

/-- The ends of the four streams of a section, which starts with the sizes of
three of them. -/
structure StreamStops where
  first : Nat
  second : Nat
  third : Nat
  fourth : Nat

def StreamStops.read (content : ByteArray) : Except ExpandFault StreamStops :=
  let first := 6 + numberAt content 0 2
  let second := first + numberAt content 2 2
  let third := second + numberAt content 4 2
  if content.size < 10 ∨ content.size < third then .error .corrupted
  else .ok { first, second, third, fourth := content.size }

/-- Whether all streams have at least eight bytes. -/
def StreamStops.areFar (stops : StreamStops) : Bool :=
  14 ≤ stops.first && stops.first + 8 ≤ stops.second && stops.second + 8 ≤ stops.third &&
    stops.third + 8 ≤ stops.fourth

/-- Decodes four streams one after another. The first three have equally many
symbols, the last one has the rest. -/
def decodeFourApart (table : CodeTable) (content : ByteArray) (count : Nat) :
    Except ExpandFault ByteArray := do
  let stops ← StreamStops.read content
  let share := (count + 3) / 4
  let decoded ← table.decodeStream content 6 stops.first share ByteArray.empty
  let decoded ← table.decodeStream content stops.first stops.second share decoded
  let decoded ← table.decodeStream content stops.second stops.third share decoded
  table.decodeStream content stops.third stops.fourth (count - 3 * share) decoded

/-- Decodes four streams: in step if they are long and the table has the usual
depth, and else apart. -/
def decodeFour (table : CodeTable) (content : ByteArray) (count : Nat) :
    Except ExpandFault ByteArray := do
  let stops ← StreamStops.read content
  let share := (count + 3) / 4
  if stops.areFar && table.depth = usualDepth && 3 * share < count then
    let streams : SteppedStreams :=
      { first := SteppedStream.ofBytes content 6 stops.first share
        second := SteppedStream.ofBytes content stops.first stops.second share
        third := SteppedStream.ofBytes content stops.second stops.third share
        fourth := SteppedStream.ofBytes content stops.third stops.fourth (count - 3 * share) }
    let streams := streams.advanceAll table count
    let first ← streams.first.finish table
    let second ← streams.second.finish table
    let third ← streams.third.finish table
    let fourth ← streams.fourth.finish table
    return first ++ second ++ third ++ fourth
  else table.decodeFourApart content count

/-! ## The choice between one symbol and two -/

/-- What decoding is expected to take: for the table, and for 256 symbols. -/
structure ExpectedTime where
  forTable : Nat
  forSymbols : Nat
deriving DecidableEq, Repr

def ExpectedTime.total (time : ExpectedTime) (count : Nat) : Nat :=
  time.forTable + time.forSymbols * (count / 256)

/-- The times with single symbols, by sixteenths of the size before coding. -/
def singleTimes : Array ExpectedTime :=
  #[⟨0, 0⟩, ⟨0, 0⟩, ⟨150, 216⟩, ⟨170, 205⟩, ⟨177, 199⟩, ⟨197, 194⟩, ⟨221, 192⟩, ⟨256, 189⟩,
    ⟨359, 188⟩, ⟨582, 187⟩, ⟨688, 187⟩, ⟨825, 186⟩, ⟨976, 185⟩, ⟨1180, 186⟩, ⟨1377, 185⟩,
    ⟨1412, 185⟩]

/-- The times with pairs of symbols, likewise. -/
def pairTimes : Array ExpectedTime :=
  #[⟨1, 1⟩, ⟨1, 1⟩, ⟨381, 119⟩, ⟨514, 112⟩, ⟨539, 110⟩, ⟨644, 107⟩, ⟨735, 107⟩, ⟨881, 106⟩,
    ⟨1167, 109⟩, ⟨1570, 114⟩, ⟨1712, 122⟩, ⟨1965, 136⟩, ⟨2131, 150⟩, ⟨2070, 175⟩, ⟨1731, 202⟩,
    ⟨1695, 202⟩]

/-- Expected times, and the part of the time with pairs that these have to gain. -/
structure TimeTable where
  single : Array ExpectedTime
  pair : Array ExpectedTime
  handicap : Nat

/-- Whether pairs are the faster way for sections of the given sizes. -/
def TimeTable.prefersPairs (times : TimeTable) (count codedSize : Nat) : Bool :=
  let sixteenths := if count ≤ codedSize then 15 else codedSize * 16 / count
  let single := (times.single.getD sixteenths ⟨0, 0⟩).total count
  let pair := (times.pair.getD sixteenths ⟨0, 0⟩).total count
  pair + pair / times.handicap < single

/-- The expected times, of which the table is a large part where pairs are looked up. -/
def usualTimes : TimeTable :=
  { single := singleTimes, pair := pairTimes, handicap := 32 }

end BlockCustody.Compression.Zstandard.CodeTable
