import BlockCustody.Compression.Zstandard.Writing.CodeLengths
import BlockCustody.Compression.Zstandard.Writing.Distribution
import BlockCustody.Compression.Zstandard.Writing.States

/-!
Contract: a prefix code made for the bytes at hand.

Owns:
- the code words of given lengths;
- the description of the code as the weights of its symbols.

Does not own: the lengths of code words, and when bytes are worth coding.
-/

namespace BlockCustody.Compression.Zstandard

/-! ## Code words -/

/-- A prefix code by symbol: the lengths of its words, the longest of them, and
the words. -/
structure WordTable where
  lengths : List Nat
  longest : Nat
  words : Array BitField

namespace WordTable

/-- The words of given lengths. Longer words come first in the order of numbers,
and among words of one length those of smaller symbols. -/
def ofLengths (lengths : List Nat) : WordTable :=
  let longest := lengths.foldl max 0
  let present := lengths.zipIdx.filter fun entry => 0 < entry.1
  let ordered := present.mergeSort fun first second => decide (second.1 ≤ first.1)
  let assign := fun ((words, place) : Array BitField × Nat) ((length, symbol) : Nat × Nat) =>
    let share := powerOfTwo (longest - length)
    (words.setIfInBounds symbol { value := place / share, width := length }, place + share)
  { lengths
    longest
    words := (ordered.foldl assign (Array.replicate lengths.length ⟨0, 0⟩, 0)).1 }

def ofCounts (depth : Nat) (counts : List Nat) : WordTable :=
  ofLengths (codeLengths depth counts)

def word (table : WordTable) (symbol : Nat) : BitField :=
  table.words.getD symbol ⟨0, 0⟩

/-- How many bits all symbols take, given how often each of them occurs. -/
def totalWidth (table : WordTable) (counts : List Nat) : Nat :=
  (counts.zip table.lengths).foldl (fun sum (count, length) => sum + count * length) 0

/-! ## Descriptions -/

/-- The weights of all symbols but the last one: one for the longest words, and
one more for every bit by which a word is shorter. -/
def weights (table : WordTable) : List Nat :=
  table.lengths.dropLast.map fun length =>
    if length = 0 then 0 else table.longest + 1 - length

/-- Items of two lists by turns. -/
def alternate {α : Type} : List α → List α → List α
  | [], others => others
  | item :: rest, others => item :: alternate others rest
termination_by items others => items.length + others.length

/-- Weights under the finite-state code, which two states share by turns. Nothing
is gained by coding weights that are all the same or all different. -/
def codedWeights? (weights : List Nat) : Option ByteArray :=
  let counts := countSymbols weights
  let most := counts.foldl max 0
  if weights.length ≤ 2 ∨ most ≤ 1 ∨ most = weights.length then none
  else
    let accuracy := accuracyFor 6 2 weights.length (counts.length - 1)
    let shares := Distribution.normalize accuracy false counts
    let choice := StateChoice.ofTable (StateTable.ofCounts accuracy shares)
    let chainOf (turn : Nat) : StateChain :=
      choice.chain ((weights.zipIdx.filter fun entry => entry.2 % 2 = turn).map (·.1))
    let first := chainOf 0
    let second := chainOf 1
    let stream := BitField.packBackward
      (first.startField accuracy :: second.startField accuracy ::
        alternate first.steps second.steps)
    some (Distribution.describe accuracy shares ++ stream)

/-- Weights as they are, two to a byte, the first one in the high half. -/
def plainWeights (weights : List Nat) : ByteArray :=
  let count := weights.length
  (List.range ((count + 1) / 2)).foldl
    (fun written index =>
      written.push
        (weights.getD (2 * index) 0 * 16 + weights.getD (2 * index + 1) 0).toUInt8)
    (ByteArray.empty.push (127 + count).toUInt8)

/-- The description of the code, in the shorter form. There is none if the weights
are too many for the plain form, and coding them gains too little. -/
def description? (table : WordTable) : Option ByteArray :=
  let weights := table.weights
  let coded := (codedWeights? weights).filter fun written =>
    1 < written.size && written.size < weights.length / 2
  match coded with
  | some written => some (ByteArray.empty.push written.size.toUInt8 ++ written)
  | none => if 128 < weights.length then none else some (plainWeights weights)

end WordTable

end BlockCustody.Compression.Zstandard
