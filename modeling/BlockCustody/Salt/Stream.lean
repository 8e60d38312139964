import BlockCustody.Bytes.LittleEndian

/-!
Contract: where salts come from.

Owns:
- salts as consecutive segments of one endless stream of bytes;
- a reproducible stream grown from a seed.

Does not own: how a running node obtains unpredictable bytes.
-/

namespace BlockCustody

/-- An endless stream of bytes, and how many of them were already handed out. -/
structure SaltStream where
  byteAt : Nat → UInt8
  taken : Nat

namespace SaltStream

def segment (stream : SaltStream) (start count : Nat) : Bytes :=
  (List.range' start count).map stream.byteAt

/-- The next `count` bytes, and the stream after them. -/
def draw (stream : SaltStream) (count : Nat) : Bytes × SaltStream :=
  (stream.segment stream.taken count, { stream with taken := stream.taken + count })

@[simp]
theorem length_segment (stream : SaltStream) (start count : Nat) :
    (stream.segment start count).length = count := by
  simp [segment]

/-! ## A reproducible stream -/

/-- The state after a number of steps of `state ↦ multiplier * state + increment`,
found by squaring the step. The first argument bounds the binary length of the
number of steps. -/
def advance : Nat → UInt64 → UInt64 → Nat → UInt64 → UInt64
  | 0, _, _, _, state => state
  | bits + 1, multiplier, increment, steps, state =>
      if steps = 0 then state
      else
        let state := if steps % 2 = 1 then multiplier * state + increment else state
        advance bits (multiplier * multiplier) (multiplier * increment + increment)
          (steps / 2) state

/-- The stream of a 64-bit linear congruential generator: byte `index` is the
high byte of the state after `index + 1` steps from the seed. -/
def ofSeed (seed : UInt64) : SaltStream :=
  { byteAt := fun index =>
      (advance 64 6364136223846793005 1442695040888963407 (index + 1) seed >>> 56).toUInt8
    taken := 0 }

end SaltStream

end BlockCustody
