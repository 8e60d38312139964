import BlockCustody.Bytes.LittleEndian

/-!
Contract: compression as an interchangeable part.

Owns:
- what a compressor offers, and the law that expanding undoes compressing;
- the check that makes any compressor obey that law;
- the choice between the compressed and the raw form of a byte string;
- the causes for which compressed bytes are refused, and their wording.

Does not own: any compressed format.
-/

namespace BlockCustody

/-- Why bytes are not the compressed form of anything. -/
inductive ExpandFault where
  | unknownFrame
  | incompleteFrame
  | wrongChecksum
  | corrupted
  | wrongSize
  | windowTooLarge
  | unsupportedParameter
  | unsupportedVersion
  | wrongDictionary
  | damagedDictionary
  | wrongLiteralsHeader
  | outputTooSmall
  | unspecific
deriving DecidableEq, Repr

def ExpandFault.message : ExpandFault → String
  | .unknownFrame => "Unknown frame descriptor"
  | .incompleteFrame => "incomplete frame"
  | .wrongChecksum => "Restored data doesn't match checksum"
  | .corrupted => "Data corruption detected"
  | .wrongSize => "Src size is incorrect"
  | .windowTooLarge => "Frame requires too much memory for decoding"
  | .unsupportedParameter => "Unsupported frame parameter"
  | .unsupportedVersion => "Version not supported"
  | .wrongDictionary => "Dictionary mismatch"
  | .damagedDictionary => "Dictionary is corrupted"
  | .wrongLiteralsHeader => "Header of Literals' block doesn't respect format specification"
  | .outputTooSmall => "Destination buffer is too small"
  | .unspecific => "Error (generic)"

/-- A way to make byte strings shorter and to get them back. Compressing may
fail; the level says how hard to try. -/
structure Compressor where
  compress : Int → Bytes → Option Bytes
  expand : Bytes → Except ExpandFault Bytes

/-- Whatever was compressed, at whatever level, expands to itself. -/
def Compressor.Lossless (compressor : Compressor) : Prop :=
  ∀ level raw compressed,
    compressor.compress level raw = some compressed →
      compressor.expand compressed = .ok raw

/-- Bytes as they are kept: compressed, or as they were. -/
structure StoredBytes where
  compressed : Bool
  data : Bytes
deriving DecidableEq, Repr

namespace Compressor

/-! ## Checked compression -/

/-- Whether compressed bytes expand to the bytes they were made from. -/
def restores (compressor : Compressor) (raw compressed : Bytes) : Bool :=
  match compressor.expand compressed with
  | .ok expanded => expanded == raw
  | .error _ => false

/-- The compressor that gives up where it could not get the bytes back. -/
def checked (compressor : Compressor) : Compressor :=
  { compress := fun level raw =>
      (compressor.compress level raw).filter (compressor.restores raw)
    expand := compressor.expand }

/-- What passes the check expands to itself, however the bytes were searched. -/
theorem checked_lossless (compressor : Compressor) : compressor.checked.Lossless := by
  intro level raw compressed isCompressed
  obtain ⟨_, isRestored⟩ := Option.filter_eq_some_iff.1 isCompressed
  unfold restores at isRestored
  split at isRestored
  · next expanded isExpanded =>
      rw [eq_of_beq isRestored] at isExpanded
      exact isExpanded
  · cases isRestored

/-! ## Stored bytes -/

/-- The form in which bytes are kept: the compressed one only if it is strictly
shorter. -/
def store (compressor : Compressor) (level : Int) (raw : Bytes) : StoredBytes :=
  match compressor.compress level raw with
  | some compressed =>
      if compressed.length < raw.length then { compressed := true, data := compressed }
      else { compressed := false, data := raw }
  | none => { compressed := false, data := raw }

/-- The bytes that were kept. -/
def recover (compressor : Compressor) (stored : StoredBytes) : Except ExpandFault Bytes :=
  if stored.compressed then compressor.expand stored.data else .ok stored.data

end Compressor

end BlockCustody
