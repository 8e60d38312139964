import BlockCustody.Bytes.LittleEndian

/-!
Contract: the lengths of code words for symbols that occur with given counts.

Owns:
- the tree that joins the rarest symbols first;
- cutting its depth down to a limit.

Does not own: the code words.
-/

namespace BlockCustody.Compression.Zstandard

/-! ## The tree -/

/-- Symbols joined two by two. `count` is how often those below occur in total. -/
inductive CodeTree where
  | leaf (count symbol : Nat)
  | node (count : Nat) (left right : CodeTree)

namespace CodeTree

def count : CodeTree → Nat
  | leaf count _ => count
  | node count _ _ => count

def join (left right : CodeTree) : CodeTree :=
  node (left.count + right.count) left right

/-- Takes the rarest of two ascending lists of trees, and returns it with what is
left of them. Joined trees come before leaves that are as frequent. -/
def takeRarest : List CodeTree → List CodeTree → Option (CodeTree × List CodeTree × List CodeTree)
  | [], [] => none
  | single :: singles, [] => some (single, singles, [])
  | [], joined :: others => some (joined, [], others)
  | single :: singles, joined :: others =>
      if single.count < joined.count then some (single, singles, joined :: others)
      else some (joined, single :: singles, others)

/-- Joins the two rarest trees until one is left. The first argument bounds how
often that can be done. -/
def joinAll : Nat → List CodeTree → List CodeTree → Option CodeTree
  | 0, _, _ => none
  | joins + 1, singles, joined =>
      match takeRarest singles joined with
      | none => none
      | some (first, singles, joined) =>
          match takeRarest singles joined with
          | none => some first
          | some (second, singles, joined) => joinAll joins singles (joined ++ [join first second])

/-- The symbols of a tree that starts at a depth, with the depth of each. -/
def depths : CodeTree → Nat → List (Nat × Nat)
  | leaf _ symbol, depth => [(symbol, depth)]
  | node _ left right, depth => depths left (depth + 1) ++ depths right (depth + 1)

end CodeTree

/-! ## Lengths under a limit -/

/-- A symbol, how often it occurs, and the length of its code word. -/
structure CodeLength where
  symbol : Nat
  count : Nat
  length : Nat
deriving Inhabited

namespace CodeLength

/-- Where the last symbol of a given length is. -/
def lastOf (lengths : Array CodeLength) (length : Nat) : Option Nat :=
  (List.range lengths.size).reverse.find? fun place =>
    (lengths.getD place default).length = length

/-- The length by which to shorten the lack of code words, counted from the limit:
one that pays the greatest part of it, unless two rarer words that are twice as
long do it at a lower price. -/
def payingLength (limit : Nat) (lengths : Array CodeLength) : Nat → Nat
  | 0 => 1
  | 1 => 1
  | below + 2 =>
      match lastOf lengths (limit - (below + 2)) with
      | none => payingLength limit lengths (below + 1)
      | some high =>
          match lastOf lengths (limit - (below + 1)) with
          | none => below + 2
          | some low =>
              if (lengths.getD high default).count ≤ 2 * (lengths.getD low default).count then
                below + 2
              else payingLength limit lengths (below + 1)

/-- The next shorter length that there is, and the last symbol that has it. -/
def nextShorter (limit : Nat) (lengths : Array CodeLength) : Nat → Nat → Option (Nat × Nat)
  | 0, _ => none
  | steps + 1, below =>
      match lastOf lengths (limit - below) with
      | some place => some (below, place)
      | none => nextShorter limit lengths steps (below + 1)

/-- Makes words longer until the lack is paid, and returns by how much too much was
paid. The first argument bounds the number of steps. -/
def lengthen (limit : Nat) : Nat → Nat → Array CodeLength → Array CodeLength × Nat
  | 0, _, lengths => (lengths, 0)
  | steps + 1, lack, lengths =>
      if lack = 0 then (lengths, 0)
      else
        match nextShorter limit lengths limit (payingLength limit lengths (Nat.log2 lack + 1)) with
        | none => (lengths, 0)
        | some (below, place) =>
            let paid := powerOfTwo (below - 1)
            let lengths := lengths.modify place fun entry => { entry with length := entry.length + 1 }
            if lack < paid then (lengths, paid - lack)
            else lengthen limit steps (lack - paid) lengths

/-- Makes the words of the most frequent symbols of the greatest length shorter, as
many of them as there is room for. -/
def shorten (limit : Nat) : Nat → Array CodeLength → Array CodeLength
  | 0, lengths => lengths
  | room + 1, lengths =>
      match lengths.findIdx? fun entry => entry.length = limit with
      | none => lengths
      | some place =>
          shorten limit room
            (lengths.modify place fun entry => { entry with length := entry.length - 1 })

/-- Cuts longer words down to the limit. Those are too many; for each of them that
is one too many, as counted by what it takes of all words of that length, others
become longer. -/
def cutDown (limit longest : Nat) (lengths : Array CodeLength) : Array CodeLength :=
  let unit := powerOfTwo (longest - limit)
  let lack := lengths.foldl
    (fun lack entry =>
      if limit < entry.length then lack + unit - powerOfTwo (longest - entry.length) else lack)
    0
  let cut := lengths.map fun entry => { entry with length := min entry.length limit }
  let (paid, room) := lengthen limit (powerOfTwo limit) (lack / unit) cut
  shorten limit room paid

end CodeLength

/-- The length of every symbol's code word, zero for an absent symbol, and none
above the limit. -/
def codeLengths (limit : Nat) (counts : List Nat) : List Nat :=
  let present := counts.zipIdx.filter fun entry => 0 < entry.1
  let ordered := present.mergeSort fun first second => decide (second.1 ≤ first.1)
  let leaves := ordered.reverse.map fun (count, symbol) => CodeTree.leaf count symbol
  match CodeTree.joinAll leaves.length leaves [] with
  | none => counts.map fun _ => 0
  | some tree =>
      let place := fun (table : Array Nat) ((symbol, depth) : Nat × Nat) =>
        table.setIfInBounds symbol depth
      let natural := (tree.depths 0).foldl place (Array.replicate counts.length 0)
      let lengths := (ordered.map fun (count, symbol) =>
        ({ symbol, count, length := natural.getD symbol 0 } : CodeLength)).toArray
      let longest := natural.foldl max 0
      let limited :=
        if longest ≤ limit then lengths else CodeLength.cutDown limit longest lengths
      (limited.foldl (fun table entry => place table (entry.symbol, entry.length)) natural).toList

end BlockCustody.Compression.Zstandard
