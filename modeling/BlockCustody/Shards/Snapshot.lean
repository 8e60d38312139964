import BlockCustody.Shards.Store
import BlockCustody.Snapshot.Envelope

/-!
Contract: the rows of the shard store as a snapshot.

Owns: writing both tables of rows, and reading them under a given limit.

Does not own: the file the snapshot is kept in.
-/

namespace BlockCustody

namespace ShardStore

open Snapshot

/-- A table of rows in the order of their keys. -/
def writeRows (rows : KeyedMap Bytes Bytes) : Bytes :=
  writeMap writeBytes writeBytes rows

def readRows : Reader (KeyedMap Bytes Bytes) :=
  Reader.map Reader.bytes Reader.bytes

def toSnapshot (store : ShardStore) : Except WriteFault Bytes :=
  write (writeRows store.shards ++ writeRows store.metadata)

/-- The store in a snapshot. The limit is not part of it. -/
def ofSnapshot (maxGigabytes : Nat) (bytes : Bytes) : Except ReadFault ShardStore :=
  let tables : Reader (KeyedMap Bytes Bytes × KeyedMap Bytes Bytes) := do
    let shards ← readRows
    return (shards, ← readRows)
  match read tables bytes with
  | .error fault => .error fault
  | .ok (shards, metadata) => .ok { empty maxGigabytes with shards, metadata }

end ShardStore

end BlockCustody
