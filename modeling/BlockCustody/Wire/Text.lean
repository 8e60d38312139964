import BlockCustody.Json.Record
import BlockCustody.Wire.Message

/-!
Contract: messages between peers as text.

Owns: the text form of evidence, messages and replies, and reading it.

Does not own: how a text travels.
-/

namespace BlockCustody

open Json

/-! ## Parts of messages -/

namespace Wire

/-- Numbers of eight bits, as messages about faults call them. -/
def byteKind : IntegerKind :=
  { least := 0, greatest := 255, name := "u8" }

def byte : Reader UInt8 := do
  return (← integer byteKind).toNat.toUInt8

def writeByte (byte : UInt8) : List Char :=
  writeNatural byte.toNat

/-- Bytes as a list of numbers. -/
def bytes : Reader Bytes :=
  list byte

def writeBytes (bytes : Bytes) : List Char :=
  writeList writeByte bytes

/-- An id as a list of exactly 32 numbers. -/
def contentId : Reader ContentId := do
  let read ← listOfLength 32 byte
  match ContentId.ofBytes? read with
  | some id => return id
  | none => FrontReader.refuse (.wrongLength read.length (arrayTitle 32))

def writeId (id : ContentId) : List Char :=
  writeBytes id.bytes

/-- A record with named parts that must all be there. -/
def recordShape {draft record : Type} (title : String) (fields : List (RecordField draft))
    (blank : draft) (finish : draft → Except Fault record) : Shape draft record :=
  { title
    fields
    mayBeShort := false
    blank
    finish }

/-- A single part that may not have been read yet. -/
def onlyField {part : Type} (name : String) (reader : Reader part) : RecordField (Option part) :=
  { name
    read := fun _ => do return some (← reader) }

/-- The shape of a record with a single part. -/
def singleShape {part : Type} (title name : String) (reader : Reader part) :
    Shape (Option part) part :=
  recordShape title [onlyField name reader] none (required name)

/-- The shape of a record that consists of a block id and bytes. -/
def blockShape (title : String) : Shape (Option BlockId × Option Bytes) (BlockId × Bytes) :=
  recordShape title
    [ { name := "block_id", read := fun parts => do return (some (← contentId), parts.2) },
      { name := "data", read := fun parts => do return (parts.1, some (← bytes)) } ]
    (none, none)
    fun parts => do
      let block ← required "block_id" parts.1
      return (block, ← required "data" parts.2)

/-- The same shape for a record made from another one. -/
def mapShape {draft record other : Type} (shape : Shape draft record) (make : record → other) :
    Shape draft other :=
  { title := shape.title
    fields := shape.fields
    mayBeShort := shape.mayBeShort
    blank := shape.blank
    finish := fun filled => (shape.finish filled).map make }

end Wire

open Wire

/-! ## Evidence -/

namespace EvidenceKind

def reader : Reader EvidenceKind :=
  oneOf [bareAlternative "Challenge" .challenge, bareAlternative "Response" .response]

def name : EvidenceKind → String
  | .challenge => "Challenge"
  | .response => "Response"

end EvidenceKind

/-- The parts of a message about evidence that were read so far. -/
structure EvidenceDraft where
  block : Option BlockId
  kind : Option EvidenceKind
  payload : Option Bytes

namespace EvidenceMessage

def shape : Shape EvidenceDraft EvidenceMessage :=
  recordShape "struct EvidenceMessage"
    [ { name := "block_id"
        read := fun draft => do return { draft with block := some (← contentId) } },
      { name := "kind"
        read := fun draft => do return { draft with kind := some (← EvidenceKind.reader) } },
      { name := "payload"
        read := fun draft => do return { draft with payload := some (← bytes) } } ]
    { block := none, kind := none, payload := none }
    fun draft => do
      let block ← required "block_id" draft.block
      let kind ← required "kind" draft.kind
      return { block, kind, payload := ← required "payload" draft.payload }

def ofText (text : String) : Except Fault EvidenceMessage :=
  whole shape.read text

def written (message : EvidenceMessage) : List Char :=
  writeObject
    [ ("block_id", writeId message.block),
      ("kind", writeQuoted message.kind.name),
      ("payload", writeBytes message.payload) ]

def toText (message : EvidenceMessage) : String :=
  String.ofList message.written

end EvidenceMessage

/-! ## Messages -/

namespace PeerMessage

def reader : Reader PeerMessage :=
  oneOf
    [ recordAlternative "StoreBlock"
        (mapShape (blockShape "struct variant PeerMessage::StoreBlock") fun parts =>
          .storeBlock parts.1 parts.2),
      recordAlternative "FetchBlock"
        (mapShape (singleShape "struct variant PeerMessage::FetchBlock" "block_id" contentId)
          .fetchBlock),
      recordAlternative "DeleteBlock"
        (mapShape (singleShape "struct variant PeerMessage::DeleteBlock" "block_id" contentId)
          .deleteBlock),
      singleAlternative "Evidence" (do return .evidence (← EvidenceMessage.shape.read)),
      recordAlternative "HoldingShards"
        (mapShape
          (singleShape "struct variant PeerMessage::HoldingShards" "shard_ids" (list contentId))
          .holdingShards) ]

def ofText (text : String) : Except Fault PeerMessage :=
  whole reader text

def written : PeerMessage → List Char
  | .storeBlock block data =>
      writeObject [("StoreBlock", writeObject
        [("block_id", writeId block), ("data", writeBytes data)])]
  | .fetchBlock block =>
      writeObject [("FetchBlock", writeObject [("block_id", writeId block)])]
  | .deleteBlock block =>
      writeObject [("DeleteBlock", writeObject [("block_id", writeId block)])]
  | .evidence message => writeObject [("Evidence", message.written)]
  | .holdingShards shards =>
      writeObject [("HoldingShards", writeObject [("shard_ids", writeList writeId shards)])]

def toText (message : PeerMessage) : String :=
  String.ofList message.written

end PeerMessage

/-! ## Replies -/

namespace PeerReply

def reader : Reader PeerReply :=
  oneOf
    [ bareAlternative "Ack" .acknowledged,
      recordAlternative "Block"
        (mapShape (blockShape "struct variant PeerReply::Block") fun parts =>
          .block parts.1 parts.2),
      singleAlternative "Evidence" (do return .evidence (← EvidenceMessage.shape.read)),
      recordAlternative "Refused"
        (mapShape (singleShape "struct variant PeerReply::Refused" "reason" (string "a string"))
          .refused) ]

def ofText (text : String) : Except Fault PeerReply :=
  whole reader text

def written : PeerReply → List Char
  | .acknowledged => writeQuoted "Ack"
  | .block stored data =>
      writeObject [("Block", writeObject
        [("block_id", writeId stored), ("data", writeBytes data)])]
  | .evidence message => writeObject [("Evidence", message.written)]
  | .refused reason =>
      writeObject [("Refused", writeObject [("reason", writeQuoted reason)])]

def toText (reply : PeerReply) : String :=
  String.ofList reply.written

end PeerReply

end BlockCustody
