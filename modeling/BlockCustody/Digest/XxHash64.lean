import BlockCustody.Bytes.LittleEndian

/-!
Contract: the 64-bit xxHash checksum with seed zero.

Owns: the stripes of 32 bytes, the remaining bytes, and the final mixing.

Does not own: which bytes are checked, and how much of the sum is stored.
-/

namespace BlockCustody.Digest.XxHash64

def prime1 : UInt64 := 0x9E3779B185EBCA87

def prime2 : UInt64 := 0xC2B2AE3D27D4EB4F

def prime3 : UInt64 := 0x165667B19E3779F9

def prime4 : UInt64 := 0x85EBCA77C2B2AE63

def prime5 : UInt64 := 0x27D4EB2F165667C5

@[inline]
def rotateLeft (word amount : UInt64) : UInt64 :=
  (word <<< amount) ||| (word >>> (64 - amount))

/-- The eight bytes at the front of a byte string as a word; missing bytes count
as zero. -/
def leadingWord : Bytes → UInt64
  | b0 :: b1 :: b2 :: b3 :: b4 :: b5 :: b6 :: b7 :: _ =>
      b0.toUInt64 ||| (b1.toUInt64 <<< 8) ||| (b2.toUInt64 <<< 16) ||| (b3.toUInt64 <<< 24) |||
        (b4.toUInt64 <<< 32) ||| (b5.toUInt64 <<< 40) ||| (b6.toUInt64 <<< 48) |||
        (b7.toUInt64 <<< 56)
  | short => (LittleEndian.decode short).toUInt64

/-- Takes one word into a running lane. -/
def absorb (lane word : UInt64) : UInt64 :=
  rotateLeft (lane + word * prime2) 31 * prime1

/-- The four lanes that whole stripes are spread over. -/
structure Lanes where
  lane0 : UInt64
  lane1 : UInt64
  lane2 : UInt64
  lane3 : UInt64

def Lanes.start : Lanes :=
  { lane0 := prime1 + prime2
    lane1 := prime2
    lane2 := 0
    lane3 := 0 - prime1 }

/-- Takes the given number of whole stripes; also returns the bytes after them. -/
def stripes : Nat → Lanes → Bytes → Lanes × Bytes
  | 0, lanes, bytes => (lanes, bytes)
  | count + 1, lanes, bytes =>
      let second := bytes.drop 8
      let third := second.drop 8
      let fourth := third.drop 8
      stripes count
        { lane0 := absorb lanes.lane0 (leadingWord bytes)
          lane1 := absorb lanes.lane1 (leadingWord second)
          lane2 := absorb lanes.lane2 (leadingWord third)
          lane3 := absorb lanes.lane3 (leadingWord fourth) }
        (fourth.drop 8)

def Lanes.merge (lanes : Lanes) : UInt64 :=
  let join (sum lane : UInt64) : UInt64 := (sum ^^^ absorb 0 lane) * prime1 + prime4
  let sum :=
    rotateLeft lanes.lane0 1 + rotateLeft lanes.lane1 7 + rotateLeft lanes.lane2 12 +
      rotateLeft lanes.lane3 18
  join (join (join (join sum lanes.lane0) lanes.lane1) lanes.lane2) lanes.lane3

def remainingBytes : UInt64 → Bytes → UInt64
  | sum, [] => sum
  | sum, byte :: rest =>
      remainingBytes (rotateLeft (sum ^^^ (byte.toUInt64 * prime5)) 11 * prime1) rest

/-- The fewer than 32 bytes after the stripes: words, then a half word, then
single bytes. -/
def remainder : Nat → UInt64 → Bytes → UInt64
  | words + 1, sum, bytes =>
      let mixed := sum ^^^ absorb 0 (leadingWord bytes)
      remainder words (rotateLeft mixed 27 * prime1 + prime4) (bytes.drop 8)
  | 0, sum, bytes =>
      if bytes.length < 4 then remainingBytes sum bytes
      else
        let half := (LittleEndian.decode (bytes.take 4)).toUInt64
        remainingBytes (rotateLeft (sum ^^^ (half * prime1)) 23 * prime2 + prime3) (bytes.drop 4)

/-- The checksum of a byte string. -/
def hash (bytes : Bytes) : UInt64 :=
  let (lanes, rest) := stripes (bytes.length / 32) Lanes.start bytes
  let sum := if bytes.length < 32 then prime5 else lanes.merge
  let sum := remainder (rest.length / 8) (sum + bytes.length.toUInt64) rest
  let sum := (sum ^^^ (sum >>> 33)) * prime2
  let sum := (sum ^^^ (sum >>> 29)) * prime3
  sum ^^^ (sum >>> 32)

end BlockCustody.Digest.XxHash64
