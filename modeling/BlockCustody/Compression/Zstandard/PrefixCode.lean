import BlockCustody.Compression.Zstandard.StateTable

/-!
Contract: the prefix code of literal bytes.

Owns:
- the weights of the symbols as they are written in a frame, plainly or under
  the finite-state code;
- the decoding table that weights give rise to.

Does not own: the streams of symbols, and how a literals section is divided.
-/

namespace BlockCustody.Compression.Zstandard

/-- The symbol whose code word starts the bits that index the cell, and the
length of that word. -/
structure CodeCell where
  symbol : UInt8
  width : Nat

/-- A prefix code with words of at most `depth` bits. Where `inPairs` holds, one
look at the table yields two symbols if both their words fit into it. -/
structure CodeTable where
  depth : Nat
  cells : Array CodeCell
  inPairs : Bool

namespace CodeTable

/-- The share of a symbol: zero for an absent one, doubled by every step of weight. -/
def share (weight : Nat) : Nat :=
  if weight = 0 then 0 else powerOfTwo (weight - 1)

/-- Code words are never longer than this. -/
def greatestDepth : Nat := 12

/-- The depth of tables, unless a longer word makes them deeper. -/
def usualDepth : Nat := 11

/-- The table of the given weights, of at least the given depth. The last symbol's
weight is not given: it is the one that fills the table. Shorter words belong
to higher weights. -/
def ofWeights (leastDepth : Nat) (weights : List Nat) : Except ExpandFault CodeTable :=
  let total := weights.foldr (fun weight sum => share weight + sum) 0
  if total = 0 ∨ 256 ≤ weights.length then .error .corrupted
  else
    let longest := Nat.log2 total + 1
    let rest := powerOfTwo longest - total
    if greatestDepth < longest ∨ rest ≠ powerOfTwo (Nat.log2 rest) then .error .corrupted
    else
      let numbered := (weights ++ [Nat.log2 rest + 1]).zipIdx
      let rarest := (numbered.filter fun entry => entry.1 = 1).length
      if rarest < 2 ∨ rarest % 2 = 1 then .error .corrupted
      else
        let depth := max longest leastDepth
        let widening := powerOfTwo (depth - longest)
        let cells := (List.range longest).flatMap fun lighter =>
          (numbered.filter fun entry => entry.1 = lighter + 1).flatMap fun entry =>
            List.replicate (share entry.1 * widening)
              { symbol := entry.2.toUInt8, width := longest - lighter }
        .ok { depth, cells := cells.toArray, inPairs := false }

/-- Weights written plainly, two to a byte, the first one in the high half. -/
def plainWeights (data : ByteArray) (start count : Nat) : List Nat :=
  (List.range count).map fun index =>
    let byte := byteAt data (start + index / 2)
    if index % 2 = 0 then byte / 16 else byte % 16

/-- Weights under the finite-state code: two states take turns until the bits run
out; the other state's symbol is the last weight. `weights` holds those already
read, last one first. -/
def codedWeights
    (table : StateTable) :
    Nat → Nat → Nat → BackwardBits → List Nat → Except ExpandFault (List Nat)
  | 0, _, _, _, _ => .error .corrupted
  | steps + 1, current, other, bits, weights =>
      let weights := (table.cell current).symbol :: weights
      let (next, bits) := table.nextState current bits
      if bits.left < 0 then .ok ((table.cell other).symbol :: weights).reverse
      else codedWeights table steps other next bits weights

/-- Reads the description of a code between two positions. Returns the code and
the position after the description. -/
def read (data : ByteArray) (start stop : Nat) : Except ExpandFault (CodeTable × Nat) := do
  if stop ≤ start then throw .corrupted
  let header := byteAt data start
  if 128 ≤ header then
    let count := header - 127
    let after := start + 1 + (count + 1) / 2
    if stop < after then throw .corrupted
    return (← ofWeights usualDepth (plainWeights data (start + 1) count), after)
  else
    let after := start + 1 + header
    if stop < after then throw .corrupted
    let (table, streamStart) ← StateTable.read data (start + 1) after 256 6
    let bits ← BackwardBits.ofBytes? data streamStart after
    let (first, bits) := table.firstState bits
    let (second, bits) := table.firstState bits
    if bits.left < 0 then throw .corrupted
    return (← ofWeights usualDepth (← codedWeights table 256 first second bits []), after)

end CodeTable

end BlockCustody.Compression.Zstandard
