import BlockCustody.Compression.Zstandard.StateTable

/-!
Contract: the codes that stand for lengths and distances.

Owns:
- the ranges of numbers behind the codes of literal and match lengths;
- the distributions, and their tables, that serve where none is written;
- the distances that written values stand for.

Does not own: reading and writing of sequences.
-/

namespace BlockCustody.Compression.Zstandard

/-- A code stands for a range of numbers: the first of them, and how many bits
say which. -/
structure CodeRange where
  first : Nat
  width : Nat
deriving DecidableEq, Repr

/-- The ranges of the codes of literal lengths. -/
def literalRanges : Array CodeRange :=
  #[⟨0, 0⟩, ⟨1, 0⟩, ⟨2, 0⟩, ⟨3, 0⟩, ⟨4, 0⟩, ⟨5, 0⟩, ⟨6, 0⟩, ⟨7, 0⟩, ⟨8, 0⟩, ⟨9, 0⟩, ⟨10, 0⟩,
    ⟨11, 0⟩, ⟨12, 0⟩, ⟨13, 0⟩, ⟨14, 0⟩, ⟨15, 0⟩, ⟨16, 1⟩, ⟨18, 1⟩, ⟨20, 1⟩, ⟨22, 1⟩, ⟨24, 2⟩,
    ⟨28, 2⟩, ⟨32, 3⟩, ⟨40, 3⟩, ⟨48, 4⟩, ⟨64, 6⟩, ⟨128, 7⟩, ⟨256, 8⟩, ⟨512, 9⟩, ⟨1024, 10⟩,
    ⟨2048, 11⟩, ⟨4096, 12⟩, ⟨8192, 13⟩, ⟨16384, 14⟩, ⟨32768, 15⟩, ⟨65536, 16⟩]

/-- The ranges of the codes of match lengths. -/
def matchRanges : Array CodeRange :=
  #[⟨3, 0⟩, ⟨4, 0⟩, ⟨5, 0⟩, ⟨6, 0⟩, ⟨7, 0⟩, ⟨8, 0⟩, ⟨9, 0⟩, ⟨10, 0⟩, ⟨11, 0⟩, ⟨12, 0⟩, ⟨13, 0⟩,
    ⟨14, 0⟩, ⟨15, 0⟩, ⟨16, 0⟩, ⟨17, 0⟩, ⟨18, 0⟩, ⟨19, 0⟩, ⟨20, 0⟩, ⟨21, 0⟩, ⟨22, 0⟩, ⟨23, 0⟩,
    ⟨24, 0⟩, ⟨25, 0⟩, ⟨26, 0⟩, ⟨27, 0⟩, ⟨28, 0⟩, ⟨29, 0⟩, ⟨30, 0⟩, ⟨31, 0⟩, ⟨32, 0⟩, ⟨33, 0⟩,
    ⟨34, 0⟩, ⟨35, 1⟩, ⟨37, 1⟩, ⟨39, 1⟩, ⟨41, 1⟩, ⟨43, 2⟩, ⟨47, 2⟩, ⟨51, 3⟩, ⟨59, 3⟩, ⟨67, 4⟩,
    ⟨83, 4⟩, ⟨99, 5⟩, ⟨131, 7⟩, ⟨259, 8⟩, ⟨515, 9⟩, ⟨1027, 10⟩, ⟨2051, 11⟩, ⟨4099, 12⟩,
    ⟨8195, 13⟩, ⟨16387, 14⟩, ⟨32771, 15⟩, ⟨65539, 16⟩]

/-- The distributions used when a block brings none of its own. -/
def literalCounts : List Int :=
  [4, 3, 2, 2, 2, 2, 2, 2, 2, 2, 2, 2, 2, 1, 1, 1, 2, 2, 2, 2, 2, 2, 2, 2, 2, 3, 2, 1, 1, 1, 1, 1,
    -1, -1, -1, -1]

def matchCounts : List Int :=
  [1, 4, 3, 2, 2, 2, 2, 2, 2, 1, 1, 1, 1, 1, 1, 1, 1, 1, 1, 1, 1, 1, 1, 1, 1, 1, 1, 1, 1, 1, 1, 1,
    1, 1, 1, 1, 1, 1, 1, 1, 1, 1, 1, 1, 1, 1, -1, -1, -1, -1, -1, -1, -1]

def distanceCounts : List Int :=
  [1, 1, 1, 1, 1, 1, 2, 2, 2, 1, 1, 1, 1, 1, 1, 1, 1, 1, 1, 1, 1, 1, 1, 1, -1, -1, -1, -1, -1]

def literalDefault : StateTable :=
  StateTable.ofCounts 6 literalCounts

def matchDefault : StateTable :=
  StateTable.ofCounts 6 matchCounts

def distanceDefault : StateTable :=
  StateTable.ofCounts 5 distanceCounts

/-! ## Distances -/

/-- The distance a written value stands for, and the recent distances after it.
Values up to three stand for recent distances, counted one further when no
literals come before the match. -/
def resolveDistance
    (value literalLength : Nat)
    (recent1 recent2 recent3 : Nat) :
    Nat × Nat × Nat × Nat :=
  if 3 < value then (value - 3, value - 3, recent1, recent2)
  else
    match if literalLength = 0 then value else value - 1 with
    | 0 => (recent1, recent1, recent2, recent3)
    | 1 => (recent2, recent2, recent1, recent3)
    | 2 => (recent3, recent3, recent1, recent2)
    | _ => (recent1 - 1, recent1 - 1, recent1, recent2)

end BlockCustody.Compression.Zstandard
