import BlockCustody.Digest.Blake3
import BlockCustody.Text.Hex

/-!
Contract: identifiers of content by its digest.

Owns:
- the 32-byte identifier shared by shards and blocks, and its text form;
- naming of content, checking of a claimed name;
- the salted digest a holder answers a challenge with.

Does not own: the digest function itself.
-/

namespace BlockCustody

/-- A name for content: 32 bytes, equal to the digest of what it names. -/
structure ContentId where
  bytes : Bytes
  length_bytes : bytes.length = 32
deriving DecidableEq

/-- The name of a single shard. -/
abbrev ShardId := ContentId

/-- The name of a packaged and sealed block. -/
abbrev BlockId := ContentId

namespace ContentId

def ofContent (content : Bytes) : ContentId :=
  { bytes := Digest.Blake3.hash content
    length_bytes := Digest.Blake3.length_hash content }

def ofBytes? (bytes : Bytes) : Option ContentId :=
  if length_bytes : bytes.length = 32 then some { bytes, length_bytes } else none

/-- The name that is one byte over and over. -/
def repeating (byte : UInt8) : ContentId :=
  { bytes := List.replicate 32 byte
    length_bytes := List.length_replicate }

/-- 64 lowercase digits. -/
def toHex (id : ContentId) : String :=
  Text.Hex.encode id.bytes

/-- Reads 64 digits of either case. The length is judged after the digits. -/
def ofHex (text : String) : Except Text.HexFault ContentId :=
  match Text.Hex.decode text with
  | .error fault => .error fault
  | .ok bytes =>
      match ofBytes? bytes with
      | none => .error .invalidLength
      | some id => .ok id

/-- The first eight digits, enough to tell names apart in a trace. -/
def brief (id : ContentId) : String :=
  "ContentHash(" ++ String.ofList ((Text.Hex.encodeChars id.bytes).take 8) ++ "...)"

def names (id : ContentId) (content : Bytes) : Bool :=
  ofContent content = id

end ContentId

/-- The lowercase digits of the digest of a salt followed by content: what a
holder must answer, and what the auditing side writes down beforehand. -/
def saltedDigest (salt content : Bytes) : String :=
  Text.Hex.encode (Digest.Blake3.hash (salt ++ content))

end BlockCustody
