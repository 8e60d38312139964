import BlockCustody.Collections.KeyedMap

/-!
Contract: the local store of shards under a limit on its size.

Owns:
- the rows of shards and of the times they were written at;
- putting a shard, which is judged by its content first and by its size last;
- getting a shard, which never returns bytes other than those its id names.

Does not own: the files the rows are kept in.
-/

namespace BlockCustody

/-- Why the store refused an operation. -/
inductive StoreFault where
  | notFound (id : ShardId)
  | full
  | contentMismatch (id : ShardId)
deriving DecidableEq

def StoreFault.message : StoreFault → String
  | .notFound id => "Shard not found: " ++ id.toHex
  | .full => "Storage full"
  | .contentMismatch id => "Shard content does not match id " ++ id.toHex

/-- The rows of the store, and how many bytes its shards may take together. Rows
written by others may have keys that are no ids. -/
structure ShardStore where
  shards : KeyedMap Bytes Bytes
  metadata : KeyedMap Bytes Bytes
  byteLimit : Nat
deriving DecidableEq

namespace ShardStore

def bytesPerGigabyte : Nat := 0x40000000

def empty (maxGigabytes : Nat) : ShardStore :=
  { shards := KeyedMap.empty
    metadata := KeyedMap.empty
    byteLimit := maxGigabytes * bytesPerGigabyte }

/-- The same rows under another limit. -/
def reopen (store : ShardStore) (maxGigabytes : Nat) : ShardStore :=
  { store with byteLimit := maxGigabytes * bytesPerGigabyte }

/-! ## What is stored -/

def has (store : ShardStore) (id : ShardId) : Bool :=
  store.shards.contains id.bytes

def totalSize (store : ShardStore) : Nat :=
  store.shards.values.foldr (fun content total => content.length + total) 0

def shardCount (store : ShardStore) : Nat :=
  store.shards.size

/-- The ids of the shards in order. Rows whose keys are no ids are left out. -/
def list (store : ShardStore) : List ShardId :=
  store.shards.keys.filterMap ContentId.ofBytes?

/-! ## Times of writing -/

def timeKey (id : ShardId) : Bytes :=
  ("stored_at:" ++ id.toHex).toUTF8.data.toList

/-- A time in seconds as eight bytes in two's complement. -/
def writeTime (seconds : Int) : Bytes :=
  LittleEndian.encode 8 (seconds % 0x10000000000000000).toNat

/-- The time in a row, unless it has another length than a time. -/
def readTime? (row : Bytes) : Option Int :=
  if row.length = 8 then
    let number := LittleEndian.decode row
    some (if number < 0x8000000000000000 then (number : Int)
      else (number : Int) - 0x10000000000000000)
  else none

/-- When a shard was written, in seconds since the start of 1970. -/
def storedAt? (store : ShardStore) (id : ShardId) : Option Int :=
  (store.metadata.find? (timeKey id)).bind readTime?

/-! ## Operations -/

/-- Stores content under its id. Content that the id does not name is refused
before anything else; a shard that is already there is left as it is, whatever
the limit. -/
def put (store : ShardStore) (now : Int) (id : ShardId) (content : Bytes) :
    Except StoreFault ShardStore :=
  if ¬ id.names content then .error (.contentMismatch id)
  else if store.has id then .ok store
  else if store.byteLimit < store.totalSize + content.length then .error .full
  else
    .ok { store with
      shards := store.shards.insert id.bytes content
      metadata := store.metadata.insert (timeKey id) (writeTime now) }

/-- The content an id names. Stored bytes that have become something else are
withheld. -/
def get (store : ShardStore) (id : ShardId) : Except StoreFault Bytes :=
  match store.shards.find? id.bytes with
  | none => .error (.notFound id)
  | some content => if id.names content then .ok content else .error (.contentMismatch id)

def delete (store : ShardStore) (id : ShardId) : ShardStore :=
  { store with
    shards := store.shards.erase id.bytes
    metadata := store.metadata.erase (timeKey id) }

end ShardStore

end BlockCustody
