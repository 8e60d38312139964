import BlockCustody.Compression.Zstandard.Early.Frame
import BlockCustody.Compression.Zstandard.Frame

/-!
Contract: streams of frames, one after another, and what they expand to.

Owns:
- the marks by which frames are told apart, also when cut short;
- frames that are to be skipped, and frames of earlier formats;
- that a stream ends only where a frame does.

Does not own: what is inside a frame, and the writing of frames.
-/

namespace BlockCustody.Compression.Zstandard

/-- The four bytes every frame starts with. -/
def frameMark : Bytes := [0x28, 0xB5, 0x2F, 0xFD]

/-- Whether bytes are, as far as they go, the mark of a frame. -/
def startsFrame (bytes : Bytes) : Bool :=
  bytes.take 4 = frameMark.take bytes.length

/-- Whether bytes are, as far as they go, the mark of a frame to be skipped. -/
def startsSkipped (bytes : Bytes) : Bool :=
  match bytes.take 4 with
  | [] => true
  | first :: rest => first &&& 0xF0 = 0x50 && rest = [0x2A, 0x4D, 0x18].take rest.length

/-- Streams are taken in portions of this size. A mark is only looked at with the
byte after it, as far as they are in one portion. -/
def portionSize : Nat := 131075

/-- Where the portion around a position ends. -/
def portionStop (data : ByteArray) (position : Nat) : Nat :=
  min data.size ((position / portionSize + 1) * portionSize)

/-- Passes over a frame that is to be skipped. Returns the position after it and
the buffers it leaves. -/
def skipFrame (data : ByteArray) (start : Nat) (buffers : BufferSizes) :
    Except ExpandFault (Nat × BufferSizes) := do
  if data.size < start + 8 then throw .incompleteFrame
  let size := numberAt data (start + 4) 4
  if data.size < start + 8 + size then throw .incompleteFrame
  return (start + 8 + size, buffers.fitting { input := 4, output := min size 1088 })

/-- What is kept from frame to frame: the buffers of this and of the earlier
formats. -/
structure StreamBuffers where
  present : BufferSizes
  early : Early.Buffers

def StreamBuffers.start : StreamBuffers :=
  { present := { input := 0, output := 0 }
    early := { format := none, input := 0, output := 0 } }

/-- Expands frame after frame until the input ends. The first argument bounds
their number. -/
def expandFrames (data : ByteArray) :
    Nat → Nat → StreamBuffers → ByteArray → Except ExpandFault ByteArray
  | 0, _, _, output => .ok output
  | frames + 1, position, buffers, output => do
      if data.size ≤ position then return output
      let atHand := portionStop data position
      let mark := (data.extract position (position + 4)).data.toList
      if startsFrame mark then
        if data.size < position + 5 then throw .incompleteFrame
        let (output, position, present) ← expandFrame data position atHand buffers.present output
        expandFrames data frames position { buffers with present } output
      else if startsSkipped mark then
        let (position, present) ← skipFrame data position buffers.present
        expandFrames data frames position { buffers with present } output
      else if atHand < position + 5 then throw .unknownFrame
      else
        match Early.Format.ofMark? mark with
        | some format =>
            let (output, position, early) ←
              Early.expandFrame format data (portionStop data) position buffers.early output
            expandFrames data frames position { buffers with early } output
        | none =>
            if Early.abandonedMarks.contains mark then throw .unsupportedVersion
            else throw .unknownFrame

/-- What a byte string of one or more frames expands to. -/
def expand (bytes : Bytes) : Except ExpandFault Bytes := do
  if bytes.isEmpty then throw .incompleteFrame
  let data : ByteArray := ⟨bytes.toArray⟩
  let output ← expandFrames data data.size 0 StreamBuffers.start ByteArray.empty
  return output.data.toList

end BlockCustody.Compression.Zstandard
