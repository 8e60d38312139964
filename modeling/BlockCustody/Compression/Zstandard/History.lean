import BlockCustody.Compression.Zstandard.Bits

/-!
Contract: what has been expanded, as far as matches can reach back into it.

Owns:
- the buffer that is filled again and again from its beginning: its laps, and
  which bytes are still in it;
- the copying of literals and of matches.

Does not own: when a lap ends, and where lengths and distances come from.
-/

namespace BlockCustody.Compression.Zstandard

/-- Bytes that were expanded in laps of a buffer. Matches reach back to the start
of the last lap before the current one. -/
structure History where
  output : ByteArray
  lapStart : Nat
  lastLapStart : Nat

namespace History

/-- A history that does not reach back into what is there. -/
def startAfter (output : ByteArray) : History :=
  { output, lapStart := output.size, lastLapStart := output.size }

/-- The size of the current lap. -/
def lapSize (history : History) : Nat :=
  history.output.size - history.lapStart

/-- The farthest distance of a match. -/
def reach (history : History) : Nat :=
  history.output.size - history.lastLapStart

/-- The buffer is filled from its beginning again. -/
def startLap (history : History) : History :=
  { history with lapStart := history.output.size, lastLapStart := history.lapStart }

/-- Appends bytes of another array. -/
def append (history : History) (data : ByteArray) (start stop : Nat) : History :=
  { history with output := data.copySlice start history.output history.output.size (stop - start) }

/-- Appends a byte many times. -/
def appendRun (history : History) (byte : UInt8) (count : Nat) : History :=
  { history with output := history.output ++ ⟨Array.replicate count byte⟩ }

/-- The byte at a distance back. One that the current lap has overwritten reads
as what stands in its place now. -/
def byteBack (output : ByteArray) (lapStart lastLapStart distance : Nat) : UInt8 :=
  let position := output.size - distance
  let place := position - lastLapStart
  let isOverwritten := position < lapStart && place < output.size - lapStart
  (byteAt output (if isOverwritten then lapStart + place else position)).toUInt8

def copyBack (lapStart lastLapStart distance : Nat) : Nat → ByteArray → ByteArray
  | 0, output => output
  | count + 1, output =>
      copyBack lapStart lastLapStart distance count
        (output.push (byteBack output lapStart lastLapStart distance))

/-- Repeats `count` bytes from a distance back; the copy may run into itself. -/
def repeatBack (history : History) (distance count : Nat) : History :=
  { history with
    output := copyBack history.lapStart history.lastLapStart distance count history.output }

end History

end BlockCustody.Compression.Zstandard
