import BlockCustody.Bytes.LittleEndian

/-!
Contract: the BLAKE3 digest in its three modes, cut to 32 bytes.

Owns:
- the compression function on sixteen message words;
- the division into chunks of 1024 bytes and the binary tree over them;
- plain hashing, keyed hashing and key derivation from a context text.

Does not own: what a digest identifies, and how one is written as text.
-/

namespace BlockCustody.Digest.Blake3

/-- Eight words: a chaining value, a key, or a 32-byte output. -/
structure ChainingValue where
  w0 : UInt32
  w1 : UInt32
  w2 : UInt32
  w3 : UInt32
  w4 : UInt32
  w5 : UInt32
  w6 : UInt32
  w7 : UInt32
deriving DecidableEq

/-- Sixteen words: the message block of one compression, or its working state. -/
structure WordBlock where
  w0 : UInt32
  w1 : UInt32
  w2 : UInt32
  w3 : UInt32
  w4 : UInt32
  w5 : UInt32
  w6 : UInt32
  w7 : UInt32
  w8 : UInt32
  w9 : UInt32
  w10 : UInt32
  w11 : UInt32
  w12 : UInt32
  w13 : UInt32
  w14 : UInt32
  w15 : UInt32
deriving DecidableEq

/-- The word at the front of a byte string; missing bytes count as zero. -/
def leadingWord : Bytes → UInt32
  | b0 :: b1 :: b2 :: b3 :: _ =>
      b0.toUInt32 ||| (b1.toUInt32 <<< 8) ||| (b2.toUInt32 <<< 16) ||| (b3.toUInt32 <<< 24)
  | [b0, b1, b2] => b0.toUInt32 ||| (b1.toUInt32 <<< 8) ||| (b2.toUInt32 <<< 16)
  | [b0, b1] => b0.toUInt32 ||| (b1.toUInt32 <<< 8)
  | [b0] => b0.toUInt32
  | [] => 0

/-- The four bytes of a word, least significant first. -/
def wordBytes (word : UInt32) : Bytes :=
  [word.toUInt8, (word >>> 8).toUInt8, (word >>> 16).toUInt8, (word >>> 24).toUInt8]

/-- The first 64 bytes as words, padded with zeros on the right. -/
def WordBlock.ofBytes (bytes : Bytes) : WordBlock :=
  let w0 := leadingWord bytes
  let bytes := bytes.drop 4
  let w1 := leadingWord bytes
  let bytes := bytes.drop 4
  let w2 := leadingWord bytes
  let bytes := bytes.drop 4
  let w3 := leadingWord bytes
  let bytes := bytes.drop 4
  let w4 := leadingWord bytes
  let bytes := bytes.drop 4
  let w5 := leadingWord bytes
  let bytes := bytes.drop 4
  let w6 := leadingWord bytes
  let bytes := bytes.drop 4
  let w7 := leadingWord bytes
  let bytes := bytes.drop 4
  let w8 := leadingWord bytes
  let bytes := bytes.drop 4
  let w9 := leadingWord bytes
  let bytes := bytes.drop 4
  let w10 := leadingWord bytes
  let bytes := bytes.drop 4
  let w11 := leadingWord bytes
  let bytes := bytes.drop 4
  let w12 := leadingWord bytes
  let bytes := bytes.drop 4
  let w13 := leadingWord bytes
  let bytes := bytes.drop 4
  let w14 := leadingWord bytes
  let bytes := bytes.drop 4
  let w15 := leadingWord bytes
  { w0, w1, w2, w3, w4, w5, w6, w7, w8, w9, w10, w11, w12, w13, w14, w15 }

/-- The first 32 bytes as words, padded with zeros on the right. -/
def ChainingValue.ofBytes (bytes : Bytes) : ChainingValue :=
  { w0 := leadingWord bytes
    w1 := leadingWord (bytes.drop 4)
    w2 := leadingWord (bytes.drop 8)
    w3 := leadingWord (bytes.drop 12)
    w4 := leadingWord (bytes.drop 16)
    w5 := leadingWord (bytes.drop 20)
    w6 := leadingWord (bytes.drop 24)
    w7 := leadingWord (bytes.drop 28) }

def ChainingValue.toBytes (value : ChainingValue) : Bytes :=
  wordBytes value.w0 ++ wordBytes value.w1 ++ wordBytes value.w2 ++ wordBytes value.w3 ++
    wordBytes value.w4 ++ wordBytes value.w5 ++ wordBytes value.w6 ++ wordBytes value.w7

@[simp]
theorem ChainingValue.length_toBytes (value : ChainingValue) :
    value.toBytes.length = 32 :=
  rfl

/-- The words every unkeyed computation starts from. -/
def initialValue : ChainingValue :=
  { w0 := 0x6A09E667
    w1 := 0xBB67AE85
    w2 := 0x3C6EF372
    w3 := 0xA54FF53A
    w4 := 0x510E527F
    w5 := 0x9B05688C
    w6 := 0x1F83D9AB
    w7 := 0x5BE0CD19 }

@[inline]
def rotateRight (word amount : UInt32) : UInt32 :=
  (word >>> amount) ||| (word <<< (32 - amount))

/-- Four working words, as the quarter step takes and returns them. -/
structure Quarter where
  a : UInt32
  b : UInt32
  c : UInt32
  d : UInt32

/-- The quarter step: mixes two message words into four working words. -/
@[inline]
def quarterStep (a b c d first second : UInt32) : Quarter :=
  let a := a + b + first
  let d := rotateRight (d ^^^ a) 16
  let c := c + d
  let b := rotateRight (b ^^^ c) 12
  let a := a + b + second
  let d := rotateRight (d ^^^ a) 8
  let c := c + d
  let b := rotateRight (b ^^^ c) 7
  { a, b, c, d }

/-- One round: the quarter step down the four columns, then along the four diagonals. -/
def round (state message : WordBlock) : WordBlock :=
  let column0 := quarterStep state.w0 state.w4 state.w8 state.w12 message.w0 message.w1
  let column1 := quarterStep state.w1 state.w5 state.w9 state.w13 message.w2 message.w3
  let column2 := quarterStep state.w2 state.w6 state.w10 state.w14 message.w4 message.w5
  let column3 := quarterStep state.w3 state.w7 state.w11 state.w15 message.w6 message.w7
  let diagonal0 := quarterStep column0.a column1.b column2.c column3.d message.w8 message.w9
  let diagonal1 := quarterStep column1.a column2.b column3.c column0.d message.w10 message.w11
  let diagonal2 := quarterStep column2.a column3.b column0.c column1.d message.w12 message.w13
  let diagonal3 := quarterStep column3.a column0.b column1.c column2.d message.w14 message.w15
  { w0 := diagonal0.a
    w1 := diagonal1.a
    w2 := diagonal2.a
    w3 := diagonal3.a
    w4 := diagonal3.b
    w5 := diagonal0.b
    w6 := diagonal1.b
    w7 := diagonal2.b
    w8 := diagonal2.c
    w9 := diagonal3.c
    w10 := diagonal0.c
    w11 := diagonal1.c
    w12 := diagonal1.d
    w13 := diagonal2.d
    w14 := diagonal3.d
    w15 := diagonal0.d }

/-- The order in which the next round reads the message words. -/
def permute (message : WordBlock) : WordBlock :=
  { w0 := message.w2
    w1 := message.w6
    w2 := message.w3
    w3 := message.w10
    w4 := message.w7
    w5 := message.w0
    w6 := message.w4
    w7 := message.w13
    w8 := message.w1
    w9 := message.w11
    w10 := message.w12
    w11 := message.w5
    w12 := message.w9
    w13 := message.w14
    w14 := message.w15
    w15 := message.w8 }

/-- The given number of rounds, permuting the message after each. -/
def rounds : Nat → WordBlock → WordBlock → WordBlock
  | 0, state, _ => state
  | count + 1, state, message => rounds count (round state message) (permute message)

/-- Seven rounds over one message block, folded to the next chaining value. -/
def compress
    (input : ChainingValue)
    (message : WordBlock)
    (counter : UInt64)
    (length flags : UInt32) :
    ChainingValue :=
  let start : WordBlock :=
    { w0 := input.w0
      w1 := input.w1
      w2 := input.w2
      w3 := input.w3
      w4 := input.w4
      w5 := input.w5
      w6 := input.w6
      w7 := input.w7
      w8 := initialValue.w0
      w9 := initialValue.w1
      w10 := initialValue.w2
      w11 := initialValue.w3
      w12 := counter.toUInt32
      w13 := (counter >>> 32).toUInt32
      w14 := length
      w15 := flags }
  let state := rounds 7 start message
  { w0 := state.w0 ^^^ state.w8
    w1 := state.w1 ^^^ state.w9
    w2 := state.w2 ^^^ state.w10
    w3 := state.w3 ^^^ state.w11
    w4 := state.w4 ^^^ state.w12
    w5 := state.w5 ^^^ state.w13
    w6 := state.w6 ^^^ state.w14
    w7 := state.w7 ^^^ state.w15 }

/-! ## Chunks and the tree above them -/

def chunkStartFlag : UInt32 := 1

def chunkEndFlag : UInt32 := 2

def parentFlag : UInt32 := 4

def rootFlag : UInt32 := 8

/-- What separates the modes from each other: the key words and a flag. -/
structure Mode where
  key : ChainingValue
  flag : UInt32

/-- A tree node whose last compression is still to be done, because the flags
of that compression say whether the node is the root. -/
structure Node where
  input : ChainingValue
  message : WordBlock
  counter : UInt64
  length : UInt32
  flags : UInt32

/-- The value an inner node hands to its parent. -/
def Node.chainingValue (node : Node) : ChainingValue :=
  compress node.input node.message node.counter node.length node.flags

/-- The digest, when the node is the root of the whole tree. -/
def Node.rootDigest (node : Node) : ChainingValue :=
  compress node.input node.message 0 node.length (node.flags ||| rootFlag)

/-- The blocks of one chunk in order; all but the last are compressed at once.
The first argument bounds how many blocks may still follow. -/
def chunkBlocks
    (mode : Mode)
    (counter : UInt64) :
    Nat → ChainingValue → UInt32 → Bytes → Node
  | 0, input, startFlag, bytes =>
      { input
        message := WordBlock.ofBytes bytes
        counter
        length := (bytes.take 64).length.toUInt32
        flags := mode.flag ||| startFlag ||| chunkEndFlag }
  | following + 1, input, startFlag, bytes =>
      match bytes.drop 64 with
      | [] =>
          { input
            message := WordBlock.ofBytes bytes
            counter
            length := bytes.length.toUInt32
            flags := mode.flag ||| startFlag ||| chunkEndFlag }
      | next :: rest =>
          let value :=
            compress input (WordBlock.ofBytes bytes) counter 64 (mode.flag ||| startFlag)
          chunkBlocks mode counter following value 0 (next :: rest)

/-- The node of a chunk of at most 1024 bytes. -/
def chunkNode (mode : Mode) (counter : UInt64) (chunk : Bytes) : Node :=
  chunkBlocks mode counter 15 mode.key chunkStartFlag chunk

/-- The nodes of the chunks after the first; `count` of them are cut off. -/
def chunkNodes (mode : Mode) : Nat → UInt64 → Bytes → List Node
  | 0, _, _ => []
  | count + 1, counter, bytes =>
      chunkNode mode counter (bytes.take 1024) ::
        chunkNodes mode count (counter + 1) (bytes.drop 1024)

/-- The node above two neighbours. -/
def parentNode (mode : Mode) (left right : Node) : Node :=
  let leftValue := left.chainingValue
  let rightValue := right.chainingValue
  { input := mode.key
    message :=
      { w0 := leftValue.w0
        w1 := leftValue.w1
        w2 := leftValue.w2
        w3 := leftValue.w3
        w4 := leftValue.w4
        w5 := leftValue.w5
        w6 := leftValue.w6
        w7 := leftValue.w7
        w8 := rightValue.w0
        w9 := rightValue.w1
        w10 := rightValue.w2
        w11 := rightValue.w3
        w12 := rightValue.w4
        w13 := rightValue.w5
        w14 := rightValue.w6
        w15 := rightValue.w7 }
    counter := 0
    length := 64
    flags := mode.flag ||| parentFlag }

/-- One level up: neighbours are joined, a node left over moves up unchanged. -/
def joinNeighbours (mode : Mode) : List Node → List Node
  | left :: right :: rest => parentNode mode left right :: joinNeighbours mode rest
  | [single] => [single]
  | [] => []

/-- Levels are joined until one node is left. Joining from the left gives every
left subtree the largest power of two of chunks. The first argument bounds the
number of levels. -/
def treeRoot (mode : Mode) : Nat → Node → List Node → Node
  | _, first, [] => first
  | 0, first, _ :: _ => first
  | levels + 1, first, second :: rest =>
      treeRoot mode levels (parentNode mode first second) (joinNeighbours mode rest)

/-- The 32-byte output of a mode over a byte string. -/
def digest (mode : Mode) (bytes : Bytes) : ChainingValue :=
  let following := (bytes.length - 1) / 1024
  let first := chunkNode mode 0 (bytes.take 1024)
  let others := chunkNodes mode following 1 (bytes.drop 1024)
  (treeRoot mode following first others).rootDigest

/-! ## The three modes -/

/-- Plain hashing. -/
def hash (bytes : Bytes) : Bytes :=
  (digest { key := initialValue, flag := 0 } bytes).toBytes

/-- Hashing under a 32-byte key. -/
def keyedHash (key bytes : Bytes) : Bytes :=
  (digest { key := ChainingValue.ofBytes key, flag := 16 } bytes).toBytes

/-- A key derived from key material under a context text that names the use. -/
def deriveKey (context material : Bytes) : Bytes :=
  let contextKey := digest { key := initialValue, flag := 32 } context
  (digest { key := contextKey, flag := 64 } material).toBytes

@[simp]
theorem length_hash (bytes : Bytes) : (hash bytes).length = 32 :=
  ChainingValue.length_toBytes _

@[simp]
theorem length_keyedHash (key bytes : Bytes) : (keyedHash key bytes).length = 32 :=
  ChainingValue.length_toBytes _

@[simp]
theorem length_deriveKey (context material : Bytes) : (deriveKey context material).length = 32 :=
  ChainingValue.length_toBytes _

end BlockCustody.Digest.Blake3
