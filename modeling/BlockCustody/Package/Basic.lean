import BlockCustody.Collections.KeyedMap
import BlockCustody.Compression.Compressor
import BlockCustody.Sealing.SealedBytes
import BlockCustody.Snapshot.Envelope

/-!
Contract: packages, in which shards travel to a peer as one block.

Owns:
- the shards of a package with the form each is kept in, and the package's salt;
- adding a shard and getting its bytes back;
- the written form of a package, its block id and its sealed form;
- the causes for which a package or one of its shards is refused.

Does not own: the compressed format, and the keys.
-/

namespace BlockCustody

/-- Shards by their ids, under a salt that makes equal shard sets of two blocks
look different. -/
structure Package where
  salt : Bytes
  shards : KeyedMap ShardId StoredBytes

/-- What is wrong with a package or one of its shards. -/
inductive PackageDefect where
  | sealed (fault : Sealing.SealFault)
  | format (fault : Snapshot.FormatFault)
  | shard (id : ShardId) (fault : ExpandFault)

def PackageDefect.message : PackageDefect → String
  | .sealed fault => fault.message
  | .format fault => fault.message
  | .shard id fault => "shard " ++ id.toHex ++ " does not decompress: " ++ fault.message

/-- Why an operation on a package was refused. -/
inductive PackageFault where
  | notFound (id : ShardId)
  | corrupt (defect : PackageDefect)
  | notWritten (fault : Snapshot.WriteFault)
  | notSealed (fault : Sealing.SealFault)

def PackageFault.message : PackageFault → String
  | .notFound id => "Shard not found: " ++ id.toHex
  | .corrupt defect => "Corrupt package: " ++ defect.message
  | .notWritten fault => "Package encoding failed: " ++ fault.message
  | .notSealed fault => "Package encoding failed: " ++ fault.message

namespace Package

/-! ## Shards -/

/-- A package without shards. -/
def withSalt (salt : Bytes) : Package :=
  { salt, shards := KeyedMap.empty }

/-- Puts a shard in, in whichever form is shorter, in place of any earlier one
with the same id. -/
def add
    (compressor : Compressor)
    (level : Int)
    (package : Package)
    (id : ShardId)
    (raw : Bytes) :
    Package :=
  { package with shards := package.shards.insert id (compressor.store level raw) }

/-- The bytes of a shard as they were put in. -/
def get (compressor : Compressor) (package : Package) (id : ShardId) : Except PackageFault Bytes :=
  match package.shards.find? id with
  | none => .error (.notFound id)
  | some stored =>
      match compressor.recover stored with
      | .ok raw => .ok raw
      | .error fault => .error (.corrupt (.shard id fault))

def contains (package : Package) (id : ShardId) : Bool :=
  package.shards.contains id

/-- The ids of the shards in order. -/
def shardIds (package : Package) : List ShardId :=
  package.shards.keys

/-- The number of shards. -/
def size (package : Package) : Nat :=
  package.shards.size

/-- The bytes of all shards in the form they are kept in. -/
def storedSize (package : Package) : Nat :=
  package.shards.values.foldr (fun stored total => stored.data.length + total) 0

/-! ## The written form -/

def writeStored (stored : StoredBytes) : Bytes :=
  Snapshot.writeFlag stored.compressed ++ Snapshot.writeBytes stored.data

def readStored : Snapshot.Reader StoredBytes := do
  let compressed ← Snapshot.Reader.flag
  return { compressed, data := ← Snapshot.Reader.bytes }

/-- The salt, then the shards in the order of their ids. -/
def written (package : Package) : Bytes :=
  Snapshot.writeBytes package.salt ++
    Snapshot.writeMap Snapshot.writeId writeStored package.shards

def reader : Snapshot.Reader Package := do
  let salt ← Snapshot.Reader.bytes
  return { salt, shards := ← Snapshot.Reader.map Snapshot.Reader.id readStored }

/-- The written form, if it keeps to the limit. -/
def toBytes (package : Package) : Except PackageFault Bytes :=
  match Snapshot.limited package.written with
  | .ok bytes => .ok bytes
  | .error fault => .error (.notWritten fault)

/-- The package that bytes are the written form of. -/
def ofBytes (bytes : Bytes) : Except Snapshot.FormatFault Package :=
  reader.whole bytes

/-- The id of the block before it is sealed. -/
def blockId (package : Package) : Except PackageFault BlockId :=
  match package.toBytes with
  | .ok bytes => .ok (ContentId.ofContent bytes)
  | .error fault => .error fault

/-- The written form sealed under a key. -/
def sealWith (package : Package) (key : Sealing.BlockKey) : Except PackageFault Bytes :=
  match package.toBytes with
  | .error fault => .error fault
  | .ok bytes =>
      match Sealing.sealContent key bytes with
      | .ok sealed => .ok sealed
      | .error fault => .error (.notSealed fault)

/-- The package in bytes sealed under a key. Bytes that do not open and bytes
that open to something else are both corrupt. -/
def openWith (key : Sealing.BlockKey) (sealed : Bytes) : Except PackageFault Package :=
  match Sealing.openSealed key sealed with
  | .error fault => .error (.corrupt (.sealed fault))
  | .ok bytes =>
      match ofBytes bytes with
      | .ok package => .ok package
      | .error fault => .error (.corrupt (.format fault))

end Package

end BlockCustody
