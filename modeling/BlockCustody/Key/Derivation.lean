import BlockCustody.Key.Argon2id
import BlockCustody.Peer.Id
import BlockCustody.Sealing.SealedBytes

/-!
Contract: the keys a node derives.

Owns:
- the master key of a passphrase, with the cost parameters in use;
- the block key of each storage relationship.

Does not own: where keys are kept, and the random ones.
-/

namespace BlockCustody

/-- The secret a node derives from its owner's passphrase. -/
structure MasterKey where
  bytes : Bytes

namespace MasterKey

/-- 64 MiB of memory, three passes, four lanes, 32 bytes of output. -/
def parameters : Key.Argon2id.Parameters :=
  { memoryKiB := 65536
    passes := 3
    lanes := 4
    digestLength := 32 }

def ofPassphrase (passphrase : String) (salt : Bytes) : MasterKey :=
  { bytes := Key.Argon2id.hash parameters passphrase.toUTF8.data.toList salt }

/-- The text that separates block keys from other uses of the digest. -/
def blockKeyContext : Bytes :=
  "peer-backup block key v1".toUTF8.data.toList

/-- The key for everything exchanged with one peer. -/
def blockKey (master : MasterKey) (peer : PeerId) : Sealing.BlockKey :=
  { bytes := Digest.Blake3.deriveKey blockKeyContext (master.bytes ++ peer.bytes)
    length_bytes := Digest.Blake3.length_deriveKey _ _ }

end MasterKey

end BlockCustody
