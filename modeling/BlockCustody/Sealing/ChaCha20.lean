import BlockCustody.Bytes.LittleEndian

/-!
Contract: the XChaCha20 keystream.

Owns:
- the ChaCha20 block function with a 32-bit block counter;
- the subkey that stretches a 24-byte nonce;
- the keystream of any length for a key and a 24-byte nonce.

Does not own: authentication, and the form of sealed bytes.
-/

namespace BlockCustody.Sealing.ChaCha20

/-- The sixteen words the block function works on. -/
structure WordState where
  w0 : UInt32
  w1 : UInt32
  w2 : UInt32
  w3 : UInt32
  w4 : UInt32
  w5 : UInt32
  w6 : UInt32
  w7 : UInt32
  w8 : UInt32
  w9 : UInt32
  w10 : UInt32
  w11 : UInt32
  w12 : UInt32
  w13 : UInt32
  w14 : UInt32
  w15 : UInt32

@[inline]
def rotateLeft (word amount : UInt32) : UInt32 :=
  (word <<< amount) ||| (word >>> (32 - amount))

/-- Four working words, as the quarter round takes and returns them. -/
structure Quarter where
  a : UInt32
  b : UInt32
  c : UInt32
  d : UInt32

@[inline]
def quarterRound (a b c d : UInt32) : Quarter :=
  let a := a + b
  let d := rotateLeft (d ^^^ a) 16
  let c := c + d
  let b := rotateLeft (b ^^^ c) 12
  let a := a + b
  let d := rotateLeft (d ^^^ a) 8
  let c := c + d
  let b := rotateLeft (b ^^^ c) 7
  { a, b, c, d }

/-- A round down the columns followed by a round along the diagonals. -/
def doubleRound (state : WordState) : WordState :=
  let column0 := quarterRound state.w0 state.w4 state.w8 state.w12
  let column1 := quarterRound state.w1 state.w5 state.w9 state.w13
  let column2 := quarterRound state.w2 state.w6 state.w10 state.w14
  let column3 := quarterRound state.w3 state.w7 state.w11 state.w15
  let diagonal0 := quarterRound column0.a column1.b column2.c column3.d
  let diagonal1 := quarterRound column1.a column2.b column3.c column0.d
  let diagonal2 := quarterRound column2.a column3.b column0.c column1.d
  let diagonal3 := quarterRound column3.a column0.b column1.c column2.d
  { w0 := diagonal0.a
    w1 := diagonal1.a
    w2 := diagonal2.a
    w3 := diagonal3.a
    w4 := diagonal3.b
    w5 := diagonal0.b
    w6 := diagonal1.b
    w7 := diagonal2.b
    w8 := diagonal2.c
    w9 := diagonal3.c
    w10 := diagonal0.c
    w11 := diagonal1.c
    w12 := diagonal1.d
    w13 := diagonal2.d
    w14 := diagonal3.d
    w15 := diagonal0.d }

def doubleRounds : Nat → WordState → WordState
  | 0, state => state
  | count + 1, state => doubleRounds count (doubleRound state)

def wordAt (bytes : Bytes) (index : Nat) : UInt32 :=
  (LittleEndian.decode ((bytes.drop (4 * index)).take 4)).toUInt32

def wordBytes (word : UInt32) : Bytes :=
  [word.toUInt8, (word >>> 8).toUInt8, (word >>> 16).toUInt8, (word >>> 24).toUInt8]

@[simp]
theorem length_wordBytes (word : UInt32) : (wordBytes word).length = 4 :=
  rfl

/-- The state before the first round: four constants, the key, and four words
that hold counter and nonce. -/
def initialState (key input : Bytes) : WordState :=
  { w0 := 0x61707865
    w1 := 0x3320646e
    w2 := 0x79622d32
    w3 := 0x6b206574
    w4 := wordAt key 0
    w5 := wordAt key 1
    w6 := wordAt key 2
    w7 := wordAt key 3
    w8 := wordAt key 4
    w9 := wordAt key 5
    w10 := wordAt key 6
    w11 := wordAt key 7
    w12 := wordAt input 0
    w13 := wordAt input 1
    w14 := wordAt input 2
    w15 := wordAt input 3 }

/-- The 64 bytes of one keystream block: the state after twenty rounds, added to
the state before them. -/
def blockBytes (start : WordState) : Bytes :=
  let final := doubleRounds 10 start
  wordBytes (start.w0 + final.w0) ++ wordBytes (start.w1 + final.w1) ++
    wordBytes (start.w2 + final.w2) ++ wordBytes (start.w3 + final.w3) ++
    wordBytes (start.w4 + final.w4) ++ wordBytes (start.w5 + final.w5) ++
    wordBytes (start.w6 + final.w6) ++ wordBytes (start.w7 + final.w7) ++
    wordBytes (start.w8 + final.w8) ++ wordBytes (start.w9 + final.w9) ++
    wordBytes (start.w10 + final.w10) ++ wordBytes (start.w11 + final.w11) ++
    wordBytes (start.w12 + final.w12) ++ wordBytes (start.w13 + final.w13) ++
    wordBytes (start.w14 + final.w14) ++ wordBytes (start.w15 + final.w15)

@[simp]
theorem length_blockBytes (start : WordState) : (blockBytes start).length = 64 := by
  simp only [blockBytes, List.length_append, length_wordBytes]

/-- The subkey drawn from a key and the first sixteen bytes of a long nonce. -/
def subkey (key input : Bytes) : Bytes :=
  let final := doubleRounds 10 (initialState key input)
  wordBytes final.w0 ++ wordBytes final.w1 ++ wordBytes final.w2 ++ wordBytes final.w3 ++
    wordBytes final.w12 ++ wordBytes final.w13 ++ wordBytes final.w14 ++ wordBytes final.w15

/-- The state of block number zero for a key and a 24-byte nonce; other blocks
differ from it in the counter word only. -/
def streamState (key nonce : Bytes) : WordState :=
  initialState (subkey key (nonce.take 16)) ([0, 0, 0, 0, 0, 0, 0, 0] ++ nonce.drop 16)

/-- The keystream block with the given number. -/
def block (start : WordState) (number : Nat) : Bytes :=
  blockBytes { start with w12 := number.toUInt32 }

/-- The first `length` keystream bytes, counted from block number one on. Block
zero is kept back for authentication. -/
def keystream (start : WordState) (length : Nat) : Bytes :=
  ((List.range' 1 ((length + 63) / 64)).flatMap (block start)).take length

theorem length_flatMap_block (start : WordState) (numbers : List Nat) :
    (numbers.flatMap (block start)).length = 64 * numbers.length := by
  induction numbers with
  | nil => rfl
  | cons number rest inductionHypothesis =>
      simp only [List.flatMap_cons, List.length_append, inductionHypothesis, block,
        length_blockBytes, List.length_cons]
      omega

@[simp]
theorem length_keystream (start : WordState) (length : Nat) :
    (keystream start length).length = length := by
  simp only [keystream, List.length_take, length_flatMap_block, List.length_range']
  omega

end BlockCustody.Sealing.ChaCha20
