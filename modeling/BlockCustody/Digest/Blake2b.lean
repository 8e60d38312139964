import BlockCustody.Bytes.LittleEndian

/-!
Contract: the BLAKE2b digest with outputs of 1 to 64 bytes.

Owns:
- the compression of 128-byte blocks and the padding of the last one;
- unkeyed hashing to a chosen output length.

Does not own: keyed hashing, and outputs longer than 64 bytes.
-/

namespace BlockCustody.Digest.Blake2b

/-- The words every computation starts from. -/
def initialValue : Array UInt64 :=
  #[0x6A09E667F3BCC908, 0xBB67AE8584CAA73B, 0x3C6EF372FE94F82B, 0xA54FF53A5F1D36F1,
    0x510E527FADE682D1, 0x9B05688C2B3E6C1F, 0x1F83D9ABFB41BD6B, 0x5BE0CD19137E2179]

/-- For every round, the order in which it reads the sixteen message words. -/
def schedule : List (List Nat) :=
  [ [0, 1, 2, 3, 4, 5, 6, 7, 8, 9, 10, 11, 12, 13, 14, 15],
    [14, 10, 4, 8, 9, 15, 13, 6, 1, 12, 0, 2, 11, 7, 5, 3],
    [11, 8, 12, 0, 5, 2, 15, 13, 10, 14, 3, 6, 7, 1, 9, 4],
    [7, 9, 3, 1, 13, 12, 11, 14, 2, 6, 5, 10, 4, 0, 15, 8],
    [9, 0, 5, 7, 2, 4, 10, 15, 14, 1, 11, 12, 6, 8, 3, 13],
    [2, 12, 6, 10, 0, 11, 8, 3, 4, 13, 7, 5, 15, 14, 1, 9],
    [12, 5, 1, 15, 14, 13, 4, 10, 0, 7, 6, 3, 9, 2, 8, 11],
    [13, 11, 7, 14, 12, 1, 3, 9, 5, 0, 15, 4, 8, 6, 2, 10],
    [6, 15, 14, 9, 11, 3, 0, 8, 12, 2, 13, 7, 1, 4, 10, 5],
    [10, 2, 8, 4, 7, 6, 1, 5, 15, 11, 9, 14, 3, 12, 13, 0],
    [0, 1, 2, 3, 4, 5, 6, 7, 8, 9, 10, 11, 12, 13, 14, 15],
    [14, 10, 4, 8, 9, 15, 13, 6, 1, 12, 0, 2, 11, 7, 5, 3] ]

/-- The places in the working state of the eight quarter steps of a round: the
four columns, then the four diagonals. -/
def quarterPlaces : List (Nat × Nat × Nat × Nat) :=
  [ (0, 4, 8, 12), (1, 5, 9, 13), (2, 6, 10, 14), (3, 7, 11, 15),
    (0, 5, 10, 15), (1, 6, 11, 12), (2, 7, 8, 13), (3, 4, 9, 14) ]

def rotateRight (word amount : UInt64) : UInt64 :=
  (word >>> amount) ||| (word <<< (64 - amount))

def wordAt (words : Array UInt64) (index : Nat) : UInt64 :=
  words.getD index 0

/-- Mixes two message words into four working words. -/
def quarterStep
    (state : Array UInt64)
    (places : Nat × Nat × Nat × Nat)
    (first second : UInt64) :
    Array UInt64 :=
  let (placeA, placeB, placeC, placeD) := places
  let a := wordAt state placeA + wordAt state placeB + first
  let d := rotateRight (wordAt state placeD ^^^ a) 32
  let c := wordAt state placeC + d
  let b := rotateRight (wordAt state placeB ^^^ c) 24
  let a := a + b + second
  let d := rotateRight (d ^^^ a) 16
  let c := c + d
  let b := rotateRight (b ^^^ c) 63
  (((state.setIfInBounds placeA a).setIfInBounds placeB b).setIfInBounds placeC c).setIfInBounds
    placeD d

/-- The quarter steps of one round; each takes the next two words of the order. -/
def round
    (message : Array UInt64) :
    List (Nat × Nat × Nat × Nat) → List Nat → Array UInt64 → Array UInt64
  | places :: otherPlaces, first :: second :: order, state =>
      round message otherPlaces order
        (quarterStep state places (wordAt message first) (wordAt message second))
  | _, _, state => state

/-- The words of a block of up to 128 bytes; missing bytes count as zero. -/
def messageWords (block : Bytes) : Array UInt64 :=
  ((List.range 16).map fun index =>
    (LittleEndian.decode ((block.drop (8 * index)).take 8)).toUInt64).toArray

/-- Folds one block into the chaining value; `hashed` counts the bytes up to its
end. -/
def compress
    (value : Array UInt64)
    (block : Bytes)
    (hashed : Nat)
    (isLast : Bool) :
    Array UInt64 :=
  let message := messageWords block
  let upper := initialValue.modify 4 (· ^^^ hashed.toUInt64)
  let upper := if isLast then upper.modify 6 (· ^^^ 0xFFFFFFFFFFFFFFFF) else upper
  let state := schedule.foldl (fun state order => round message quarterPlaces order state)
    (value ++ upper)
  value.mapIdx fun index word => word ^^^ wordAt state index ^^^ wordAt state (index + 8)

/-- The blocks in order. The first argument bounds how many may follow. -/
def blocks : Nat → Array UInt64 → Nat → Bytes → Array UInt64
  | 0, value, hashed, bytes => compress value bytes (hashed + bytes.length) true
  | following + 1, value, hashed, bytes =>
      match bytes.drop 128 with
      | [] => compress value bytes (hashed + bytes.length) true
      | next :: rest =>
          blocks following (compress value (bytes.take 128) (hashed + 128) false)
            (hashed + 128) (next :: rest)

/-- The digest of the given length, at most 64. -/
def hash (length : Nat) (bytes : Bytes) : Bytes :=
  let start := initialValue.modify 0 (· ^^^ (0x01010000 + length).toUInt64)
  let value := blocks (bytes.length / 128) start 0 bytes
  (value.toList.flatMap fun word => LittleEndian.encode 8 word.toNat).take length

end BlockCustody.Digest.Blake2b
