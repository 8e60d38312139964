import BlockCustody.Compression.Zstandard.Bits

/-!
Contract: earlier occurrences of the bytes at a position.

Owns:
- how far bytes agree at two positions, forwards and backwards;
- the slots in which earlier positions are remembered;
- cutting a block into sequences, given a way to find the next match.

Does not own: the ways to find a match.
-/

namespace BlockCustody.Compression.Zstandard

/-! ## Agreement -/

/-- How many bytes, up to a limit, agree at two positions, given how many are known
to agree. -/
def agreement (data : ByteArray) (earlier later : Nat) : Nat → Nat → Nat
  | 0, known => known
  | limit + 1, known =>
      if byteAt data (earlier + known) = byteAt data (later + known) then
        agreement data earlier later limit (known + 1)
      else known

/-- How many bytes, up to a limit, agree before two positions, given how many are
known to agree. -/
def agreementBefore (data : ByteArray) (earlier later : Nat) : Nat → Nat → Nat
  | 0, known => known
  | limit + 1, known =>
      if byteAt data (earlier - known - 1) = byteAt data (later - known - 1) then
        agreementBefore data earlier later limit (known + 1)
      else known

/-- Whether the first `width` bytes, at most eight, agree at two positions. -/
def agreesFor (data : ByteArray) (earlier later width : Nat) : Bool :=
  lowestBits (wordAt data earlier ^^^ wordAt data later) (8 * width) == 0

/-! ## Slots -/

/-- The last position seen with each slot, plus one; zero where there was none. -/
structure SlotTable where
  hashedBytes : Nat
  width : Nat
  slots : Array Nat

namespace SlotTable

def empty (hashedBytes width : Nat) : SlotTable :=
  { hashedBytes, width, slots := Array.replicate (powerOfTwo width) 0 }

/-- The factor that spreads the given number of bytes over the slots. -/
def factor : Nat → UInt64
  | 5 => 889523592379
  | 6 => 227718039650203
  | 7 => 58295818150454627
  | 8 => 14923729446382167139
  | _ => 2654435761

/-- The slot of the bytes at a position. -/
def slotAt (table : SlotTable) (data : ByteArray) (position : Nat) : Nat :=
  let unused := (64 - 8 * table.hashedBytes).toUInt64
  let product := (wordAt data position <<< unused) * factor table.hashedBytes
  (product >>> (64 - table.width).toUInt64).toNat

/-- The last position with the same slot, plus one. -/
def candidate (table : SlotTable) (data : ByteArray) (position : Nat) : Nat :=
  table.slots.getD (table.slotAt data position) 0

def remember (table : SlotTable) (data : ByteArray) (position : Nat) : SlotTable :=
  let slot := table.slotAt data position
  { table with slots := table.slots.setIfInBounds slot (position + 1) }

end SlotTable

/-! ## Sequences -/

/-- A run of literals followed by a match. The value says how far back the match
is: one for the most recent distance other than the last one used, and three more
than the distance for any other. -/
structure Sequence where
  literalLength : Nat
  matchLength : Nat
  value : Nat
deriving DecidableEq, Repr

/-- A match that was found: where it starts, how far back it points, whether that
is the most recent distance, how many bytes are known to agree, and the last
position that was looked at before. -/
structure Find where
  start : Nat
  distance : Nat
  isRecent : Bool
  known : Nat
  examined : Nat

/-- The part of a byte string that is searched: up to `stop`, with matches that
start before `limit`, and that point to `lowest` at the lowest. -/
structure SearchRange where
  lowest : Nat
  limit : Nat
  stop : Nat

/-- A way to find the next match. It starts from a position, the start of the
pending literals, the most recent distance, and what is remembered. `leave`
remembers what is in a match, given where it stops; `revisit` remembers a
position at which the last distance but one is used again. -/
structure Finder (Memory : Type) where
  find : ByteArray → SearchRange → Nat → Nat → Nat → Memory → Option Find × Memory
  leave : ByteArray → Find → Nat → Memory → Memory
  revisit : ByteArray → Nat → Memory → Memory

/-- A block while it is cut into sequences: the start of the pending literals, the
two most recent distances, zero for one that cannot be used, the sequences, last
one first, and what is remembered. -/
structure Cutting (Memory : Type) where
  start : Nat
  recent1 : Nat
  recent2 : Nat
  sequences : List Sequence
  memory : Memory

namespace Cutting

variable {Memory : Type}

/-- Takes matches at the distance used before the last one, as long as one follows
directly on the other. The first argument bounds their number. -/
def takeRepeats
    (finder : Finder Memory)
    (data : ByteArray)
    (range : SearchRange) :
    Nat → Cutting Memory → Cutting Memory
  | 0, cutting => cutting
  | steps + 1, cutting =>
      let position := cutting.start
      let earlier := position - cutting.recent2
      if range.limit < position ∨ cutting.recent2 = 0 ∨ !agreesFor data earlier position 4 then
        cutting
      else
        let length := agreement data earlier position (range.stop - position - 4) 4
        takeRepeats finder data range steps
          { start := position + length
            recent1 := cutting.recent2
            recent2 := cutting.recent1
            sequences :=
              { literalLength := 0, matchLength := length, value := 1 } :: cutting.sequences
            memory := finder.revisit data position cutting.memory }

/-- Takes a match, extended as far as its bytes agree in both directions. -/
def take
    (finder : Finder Memory)
    (data : ByteArray)
    (range : SearchRange)
    (find : Find)
    (cutting : Cutting Memory) :
    Cutting Memory :=
  let earlier := find.start - find.distance
  let back :=
    if find.isRecent then 0
    else
      agreementBefore data earlier find.start
        (min (find.start - cutting.start) (earlier - range.lowest)) 0
  let forward :=
    agreement data earlier find.start (range.stop - find.start - find.known) find.known
  let stop := find.start + forward
  let sequence : Sequence :=
    { literalLength := find.start - back - cutting.start
      matchLength := back + forward
      value := if find.isRecent then 1 else find.distance + 3 }
  let taken : Cutting Memory :=
    { start := stop
      recent1 := find.distance
      recent2 := if find.isRecent then cutting.recent2 else cutting.recent1
      sequences := sequence :: cutting.sequences
      memory :=
        if stop ≤ range.limit then finder.leave data find stop cutting.memory
        else cutting.memory }
  takeRepeats finder data range (range.stop - stop) taken

/-- Cuts from a position on. The first argument bounds the number of matches. -/
def run
    (finder : Finder Memory)
    (data : ByteArray)
    (range : SearchRange) :
    Nat → Nat → Cutting Memory → Cutting Memory
  | 0, _, cutting => cutting
  | steps + 1, position, cutting =>
      let { start, recent1, recent2, sequences, memory } := cutting
      let (find?, memory) := finder.find data range position start recent1 memory
      let cutting : Cutting Memory := { start, recent1, recent2, sequences, memory }
      match find? with
      | none => cutting
      | some find =>
          let cutting := cutting.take finder data range find
          run finder data range steps cutting.start cutting

end Cutting

end BlockCustody.Compression.Zstandard
