import BlockCustody.Collections.KeyedMap

/-!
Contract: what peers say to each other.

Owns: the messages, the replies, and the ways in which none arrives.

Does not own: the text form of messages, and how they travel.
-/

namespace BlockCustody

/-- The two halves of a storage audit. -/
inductive EvidenceKind where
  | challenge
  | response
deriving DecidableEq, Repr

/-- One half of the audit of a block: the salt of the hour, or the digits of the
salted digest. -/
structure EvidenceMessage where
  block : BlockId
  kind : EvidenceKind
  payload : Bytes
deriving DecidableEq

/-- What a node asks of a peer. -/
inductive PeerMessage where
  | storeBlock (block : BlockId) (data : Bytes)
  | fetchBlock (block : BlockId)
  | deleteBlock (block : BlockId)
  | evidence (message : EvidenceMessage)
  | holdingShards (shards : List ShardId)
deriving DecidableEq

/-- What a peer answers. -/
inductive PeerReply where
  | acknowledged
  | block (block : BlockId) (data : Bytes)
  | evidence (message : EvidenceMessage)
  | refused (reason : String)
deriving DecidableEq

/-- Why a peer's answer did not arrive. -/
inductive TransportFault where
  | timeout (peer : PeerId)
  | unreachable (peer : PeerId) (reason : String)
deriving DecidableEq

def TransportFault.message : TransportFault → String
  | .timeout peer => "Peer " ++ peer.toText ++ " did not answer in time"
  | .unreachable peer reason => "Peer " ++ peer.toText ++ " unreachable: " ++ reason

end BlockCustody
