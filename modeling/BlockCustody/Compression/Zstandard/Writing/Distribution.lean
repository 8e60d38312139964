import BlockCustody.Compression.Zstandard.StateTable
import BlockCustody.Compression.Zstandard.Writing.Fields

/-!
Contract: distributions made for the symbols at hand.

Owns:
- how often each symbol occurs;
- the accuracy of a table, and the share of its states each symbol gets;
- the description of a distribution as bit fields.

Does not own: reading a description, and the table it stands for.
-/

namespace BlockCustody.Compression.Zstandard

/-- How often each symbol occurs, up to the largest of them. -/
def countSymbols (symbols : List Nat) : List Nat :=
  let largest := symbols.foldl max 0
  (symbols.foldl
    (fun (counts : Array Nat) symbol => counts.modify symbol (· + 1))
    (Array.replicate (largest + 1) 0)).toList

/-- The accuracy of a table for `count` symbols that go up to `largest`: at most
`limit`, and by `margin` less than it takes to count the symbols, but enough to
tell them apart. -/
def accuracyFor (limit margin count largest : Nat) : Nat :=
  let enough := Nat.log2 (count - 1) - margin
  let needed := min (Nat.log2 count + 1) (Nat.log2 largest + 2)
  max 5 (max needed (min limit enough))

namespace Distribution

/-- A share of less than eight states is rounded up if its fraction, in parts of
`2 ^ 20`, is above the number here. -/
def roundingBounds : Array Nat :=
  #[0, 473195, 504333, 520860, 550000, 700000, 750000, 830000]

/-- How many of the states of a table a symbol should get that makes up `count`
of `total` symbols. -/
def shareOf (accuracy total count : Nat) : Nat :=
  let scale := 62 - accuracy
  let product := count * (powerOfTwo 62 / total)
  let whole := product / powerOfTwo scale
  let fraction := product % powerOfTwo scale
  match roundingBounds[whole]? with
  | some bound => if bound * powerOfTwo (scale - 20) < fraction then whole + 1 else whole
  | none => whole

/-- The place of the largest number, the first one of several. -/
def placeOfLargest (shares : List Nat) : Nat :=
  shares.idxOf (shares.foldl max 0)

/-- How often the symbols occur that are more frequent than a bound, and how many
states are left to them if all others get one. -/
def aboveBound (size bound : Nat) (counts : List Nat) : Nat × Nat :=
  counts.foldl
    (fun (sum, states) count =>
      if count = 0 then (sum, states)
      else if count ≤ bound then (sum, states - 1)
      else (sum + count, states))
    (0, size)

/-- One state for every symbol up to a bound; above it, the states that are left
are dealt out in one row, and every symbol gets those that end in its part. -/
def dealOut (accuracy bound : Nat) (counts : List Nat) : List Nat :=
  let (sum, states) := aboveBound (powerOfTwo accuracy) bound counts
  let unit := powerOfTwo (62 - accuracy)
  let middle := unit / 2 - 1
  let step := (unit * states + middle) / sum
  let deal := fun ((shares, position) : Array Nat × Nat) count =>
    if count ≤ bound then (shares.push (min count 1), position)
    else
      let next := position + count * step
      (shares.push (next / unit - position / unit), next)
  (counts.foldl deal (#[], middle)).1.toList

/-- One state for every symbol, and one more by turns until all states are given
away. -/
def dealByTurns (size : Nat) (counts : List Nat) : List Nat :=
  let present := (counts.filter (0 < ·)).length
  let deal := fun ((shares, turn) : Array Nat × Nat) count =>
    if count = 0 then (shares.push 0, turn)
    else (shares.push (size / present + if turn < size % present then 1 else 0), turn + 1)
  (counts.foldl deal (#[], 0)).1.toList

/-- Shares for symbols of which many are about as frequent as one state: those up
to one and a half states get one. The bound is raised once if the others would
lose too much by that. -/
def shareEvenly (accuracy : Nat) (counts : List Nat) : List Nat :=
  let size := powerOfTwo accuracy
  let bound := 3 * counts.foldl (· + ·) 0 / (2 * size)
  let (sum, states) := aboveBound size bound counts
  let bound := if bound < sum / states then 3 * sum / (2 * states) else bound
  if (aboveBound size bound counts).1 = 0 then dealByTurns size counts
  else dealOut accuracy bound counts

/-- Shares that sum to the number of states. What is missing goes to the most
frequent symbol, which also gives back what is too much, unless that would cost
it half of its states. -/
def settleShares (accuracy : Nat) (counts shares : List Nat) : List Nat :=
  let size := powerOfTwo accuracy
  let sum := shares.foldl (· + ·) 0
  let place := placeOfLargest shares
  let excess := sum - size
  if excess < max 1 (shares.getD place 0 / 2) then shares.modify place (· + size - sum)
  else shareEvenly accuracy counts

/-- The counts that a table of the given accuracy is made from. A symbol too rare
for a state of its own gets one nevertheless; `marksRare` tells whether this is
shown by a count of -1. -/
def normalize (accuracy : Nat) (marksRare : Bool) (counts : List Nat) : List Int :=
  let total := counts.foldl (· + ·) 0
  let size := powerOfTwo accuracy
  let isRare (count : Nat) : Bool := 0 < count && count ≤ total / size
  let shares := counts.map fun count =>
    if count = 0 then 0 else if isRare count then 1 else shareOf accuracy total count
  (counts.zip (settleShares accuracy counts shares)).map fun (count, share) =>
    if marksRare && isRare count && share = 1 then -1 else share

/-! ## Descriptions -/

/-- The field of one count, given how much is left to be described. Small numbers
are a bit shorter where not all numbers of the width are needed. -/
def countField (left : Nat) (count : Int) : BitField :=
  let width := Nat.log2 (left + 1) + 1
  let half := powerOfTwo (width - 1)
  let threshold := powerOfTwo width - 1 - (left + 1)
  let value := (count + 1).toNat
  if value < threshold then { value, width := width - 1 }
  else if value < half then { value, width }
  else { value := value + threshold, width }

/-- How many further zero counts follow a zero count: groups of two bits, of
which a full one means that another follows. -/
def zeroRunFields (run : Nat) : List BitField :=
  List.replicate (run / 3) { value := 3, width := 2 } ++ [{ value := run % 3, width := 2 }]

/-- The fields of counts, until they sum to what is left. After a zero count,
`zeros` holds how many more have been passed. -/
def countFields : Nat → Option Nat → List Int → List BitField
  | _, _, [] => []
  | left, zeros, count :: rest =>
      if left = 0 then []
      else
        match zeros with
        | none =>
            countField left count ::
              countFields (left - count.natAbs) (if count = 0 then some 0 else none) rest
        | some run =>
            if count = 0 then countFields left (some (run + 1)) rest
            else
              zeroRunFields run ++
                countField left count :: countFields (left - count.natAbs) none rest

/-- A distribution as it is written in a frame. -/
def describe (accuracy : Nat) (counts : List Int) : ByteArray :=
  BitField.pack
    ({ value := accuracy - 5, width := 4 } :: countFields (powerOfTwo accuracy) none counts)

end Distribution

end BlockCustody.Compression.Zstandard
