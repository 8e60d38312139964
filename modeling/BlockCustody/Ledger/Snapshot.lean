import BlockCustody.Ledger.Basic
import BlockCustody.Snapshot.Envelope

/-!
Contract: snapshots of the ledger.

Owns: the fields of a record in their written order, and the rule that every
restored block has evidence.

Does not own: the salt source, which a restored ledger is given anew.
-/

namespace BlockCustody

namespace Ledger

open Snapshot

def writeProof (proof : HourlyProof) : Bytes :=
  writeBytes proof.salt ++ writeText proof.expected

def readProof : Reader HourlyProof := do
  let salt ← Reader.bytes
  return { salt, expected := ← Reader.text }

def writeRecord (record : BlockRecord) : Bytes :=
  writeInstant record.calendar.start ++ writeList writeProof record.calendar.proofs ++
    writePeer record.holder ++ writeList writeId record.shards ++
    writeInstant record.validUntil

def readRecord : Reader BlockRecord := do
  let start ← Reader.instant
  let proofs ← Reader.list readProof
  let holder ← Reader.peer
  let shards ← Reader.list Reader.id
  let validUntil ← Reader.instant
  return { calendar := { start, proofs }, holder, shards, validUntil }

/-- Why bytes are not a snapshot of a ledger. -/
inductive RestoreFault where
  | snapshot (fault : ReadFault)
  | noEvidence (block : BlockId)
deriving DecidableEq

def RestoreFault.message : RestoreFault → String
  | .snapshot fault => malformed fault.message
  | .noEvidence block => malformed ("block " ++ block.toHex ++ " has no evidence")

/-- The ledger as a snapshot. -/
def toSnapshot (ledger : Ledger) : Except WriteFault Bytes :=
  write (writeMap writeId writeRecord ledger.blocks)

/-- The first block, in the order of ids, whose calendar is empty. -/
def withoutEvidence? (blocks : KeyedMap BlockId BlockRecord) : Option BlockId :=
  (blocks.entries.find? fun entry => entry.2.calendar.proofs.isEmpty).map Prod.fst

/-- The ledger in a snapshot, with settings and salts for what is added to it. -/
def ofSnapshot (settings : ProofSettings) (salts : SaltStream) (bytes : Bytes) :
    Except RestoreFault Ledger :=
  match read (Reader.map Reader.id readRecord) bytes with
  | .error fault => .error (.snapshot fault)
  | .ok blocks =>
      match withoutEvidence? blocks with
      | some block => .error (.noEvidence block)
      | none => .ok { blocks, salts, settings }

end Ledger

end BlockCustody
