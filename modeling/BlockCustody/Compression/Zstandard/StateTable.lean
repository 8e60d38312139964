import BlockCustody.Compression.Zstandard.Bits

/-!
Contract: the tables of the finite-state entropy code.

Owns:
- the distribution of symbols as it is written in a frame;
- the table of states that a distribution gives rise to;
- stepping from state to state while bits are read.

Does not own: which symbols a table is for.
-/

namespace BlockCustody.Compression.Zstandard

/-- What a state stands for: its symbol, and how the next state is found. -/
structure StateCell where
  symbol : Nat
  width : Nat
  base : Nat
deriving DecidableEq, Repr

/-- A table of `2 ^ accuracy` states. -/
structure StateTable where
  accuracy : Nat
  cells : Array StateCell

namespace StateTable

def cell (table : StateTable) (state : Nat) : StateCell :=
  table.cells.getD state { symbol := 0, width := 0, base := 0 }

/-- The table of a single symbol, whose only state needs no bits. -/
def ofSymbol (symbol : Nat) : StateTable :=
  { accuracy := 0
    cells := #[{ symbol, width := 0, base := 0 }] }

/-- The table of as many symbols as there are numbers of `width` bits, where the
next state is read in full. -/
def ofWidth (width : Nat) : StateTable :=
  { accuracy := width
    cells := (List.range (powerOfTwo width)).toArray.map fun symbol =>
      { symbol, width, base := 0 } }

/-- The symbol of every state. Symbols rarer than one state in the table sit at
its end, the first of them last; the others are dealt out over the rest with a
fixed stride. -/
def spreadSymbols (size : Nat) (counts : List Int) : Array Nat :=
  let numbered := counts.zipIdx
  let rare := numbered.filterMap fun (count, symbol) => if count < 0 then some symbol else none
  let frequent := numbered.flatMap fun (count, symbol) => List.replicate count.toNat symbol
  let limit := size - rare.length
  let stride := size / 2 + size / 8 + 3
  let places := ((List.range size).map fun index => index * stride % size).filter (· < limit)
  let table := (places.zip frequent).foldl
    (fun (table : Array Nat) (place, symbol) => table.setIfInBounds place symbol)
    (Array.replicate size 0)
  (rare.zipIdx).foldl
    (fun (table : Array Nat) (symbol, index) => table.setIfInBounds (size - 1 - index) symbol)
    table

/-- The table of a distribution; a count of -1 stands for a rare symbol, which
has one state. The states of a symbol share out the range of next states. -/
def ofCounts (accuracy : Nat) (counts : List Int) : StateTable :=
  let size := powerOfTwo accuracy
  let step := fun (cells, next) (symbol : Nat) =>
    let share := (next : Array Nat).getD symbol 1
    let width := accuracy - Nat.log2 share
    let cell : StateCell := { symbol, width, base := share * powerOfTwo width - size }
    ((cells : Array StateCell).push cell, next.setIfInBounds symbol (share + 1))
  let shares := (counts.map fun count => if count < 0 then 1 else count.toNat).toArray
  { accuracy
    cells := ((spreadSymbols size counts).foldl step (#[], shares)).1 }

/-! ## Distributions inside a frame -/

/-- Where reading goes on at a position of `size` bytes. Past the end, the last
four bytes are read again. -/
def settle (size position : Nat) : Nat :=
  if position < 8 * size then position
  else 8 * (size - 4) + (position - 8 * (size - 4)) % 32

/-- How many further zero counts follow a zero count: two-bit groups, of which a
full one means that another follows. Also returns the position after them. -/
def zeroRun (written : ByteArray) : Nat → Nat → Nat → Nat × Nat
  | 0, position, run => (run, position)
  | groups + 1, position, run =>
      let group := bitsAt written position 2
      if group = 3 then zeroRun written groups (position + 2) (run + 3)
      else (run + group, position + 2)

/-- Reads counts until they sum to the size of the table. `resume` says where
reading goes on, `left` is what is still missing, `counts` holds those already
read, last one first. The first number bounds the number of steps. -/
def readCounts
    (written : ByteArray)
    (resume : Nat → Nat)
    (symbolLimit : Nat) :
    Nat → Nat → Nat → List Int → Option (List Int × Nat)
  | 0, _, _, _ => none
  | steps + 1, position, left, counts =>
      if left = 0 then some (counts.reverse, position)
      else if symbolLimit ≤ counts.length then none
      else
        let position := resume position
        let width := Nat.log2 (left + 1) + 1
        let value := bitsAt written position width
        let half := powerOfTwo (width - 1)
        let threshold := powerOfTwo width - 1 - (left + 1)
        let isShort := value % half < threshold
        let value :=
          if isShort then value % half
          else if half ≤ value then value - threshold
          else value
        let position := position + (if isShort then width - 1 else width)
        let count : Int := value - 1
        if count = 0 then
          let (run, position) := zeroRun written symbolLimit (resume position) 0
          readCounts written resume symbolLimit steps position left
            (List.replicate (run + 1) 0 ++ counts)
        else
          readCounts written resume symbolLimit steps position (left - count.natAbs)
            (count :: counts)

/-- Reads a distribution that starts at byte `start` and lies before byte `stop`.
Returns the table and the position of the byte after the distribution. -/
def read
    (data : ByteArray)
    (start stop symbolLimit accuracyLimit : Nat) :
    Except ExpandFault (StateTable × Nat) := do
  let written := data.extract start stop
  let size := max written.size 8
  let accuracy := 5 + bitsAt written 0 4
  if accuracyLimit < accuracy then throw .corrupted
  let some (counts, position) :=
      readCounts written (settle size) symbolLimit (symbolLimit + 1) 4 (powerOfTwo accuracy) []
    | throw .corrupted
  let used := (position + 7) / 8
  if 8 * size < position ∨ written.size < used then throw .corrupted
  return (ofCounts accuracy counts, start + used)

/-! ## Stepping -/

/-- The state given by the first bits of a stream. -/
def firstState (table : StateTable) (bits : BackwardBits) : Nat × BackwardBits :=
  (bits.peekAround table.accuracy, bits.skip table.accuracy)

/-- The state after the given one. -/
def nextState (table : StateTable) (state : Nat) (bits : BackwardBits) : Nat × BackwardBits :=
  let cell := table.cell state
  (cell.base + bits.peekAround cell.width, bits.skip cell.width)

end StateTable

end BlockCustody.Compression.Zstandard
