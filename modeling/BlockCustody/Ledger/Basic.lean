import BlockCustody.Config.Settings
import BlockCustody.Evidence.Calendar
import BlockCustody.Text.Utf8
import BlockCustody.Wire.Message

/-!
Contract: the ledger of blocks handed out for storage.

Owns:
- the calendar, the holder, the shards and the validity of every block;
- adding, removing and keeping blocks, and when a call that adds one fails;
- the challenge of an hour and the judgement of an answer.

Does not own: the block's bytes, which are forgotten once its calendar is made.
-/

namespace BlockCustody

/-- What is remembered of a block. -/
structure BlockRecord where
  calendar : EvidenceCalendar
  holder : PeerId
  shards : List ShardId
  validUntil : Instant
deriving DecidableEq

/-- There is no proof for a block at an hour; no hour is named when the block
itself is unknown. -/
structure NoEvidence where
  block : BlockId
  hour : Option Int
deriving DecidableEq

def NoEvidence.message (fault : NoEvidence) : String :=
  let hour :=
    match fault.hour with
    | none => "None"
    | some hour => "Some(" ++ toString hour ++ ")"
  "No evidence for block " ++ fault.block.toHex ++ " at hour index " ++ hour

/-- Records by block, and where the salts of new calendars come from. -/
structure Ledger where
  blocks : KeyedMap BlockId BlockRecord
  salts : SaltStream
  settings : ProofSettings

namespace Ledger

/-! ## Blocks -/

def empty (settings : ProofSettings) (salts : SaltStream) : Ledger :=
  { blocks := KeyedMap.empty, salts, settings }

/-- Enters a block under the id of its bytes, whatever the hours of its calendar. A block
that is already there keeps its record, and no salt is drawn for it. -/
def add
    (ledger : Ledger)
    (now : Instant)
    (payload : Bytes)
    (shards : List ShardId)
    (holder : PeerId)
    (validUntil : Instant) :
    BlockId × Ledger :=
  let id := ContentId.ofContent payload
  if ledger.blocks.contains id then (id, ledger)
  else
    let (calendar, salts) :=
      EvidenceCalendar.generate payload now validUntil
        ledger.settings.maxWindowHours.toNat ledger.settings.saltLength.toNat ledger.salts
    let record : BlockRecord := { calendar, holder, shards, validUntil }
    (id, { ledger with blocks := ledger.blocks.insert id record, salts })

/-- The last hour of a block's calendar would start after the last instant there is. -/
structure EndOfTime where
  block : BlockId
deriving DecidableEq

/-- A call that adds a block. It fails for a new block whose calendar has no last hour,
before the block is entered. -/
def register
    (ledger : Ledger)
    (now : Instant)
    (payload : Bytes)
    (shards : List ShardId)
    (holder : PeerId)
    (validUntil : Instant) :
    Except EndOfTime (BlockId × Ledger) :=
  if ledger.blocks.contains (ContentId.ofContent payload) then
    .ok (ContentId.ofContent payload, ledger)
  else
    let (id, later) := ledger.add now payload shards holder validUntil
    match (later.blocks.find? id).bind fun record => record.calendar.lastHour? with
    | none => .error { block := id }
    | some _ => .ok (id, later)

/-- Takes a block out, and says whether it was there. -/
def remove (ledger : Ledger) (id : BlockId) : Bool × Ledger :=
  (ledger.blocks.contains id, { ledger with blocks := ledger.blocks.erase id })

/-- Takes all other blocks out, and says how many went. -/
def keepOnly (ledger : Ledger) (live : List BlockId) : Nat × Ledger :=
  let blocks := ledger.blocks.filter fun id _ => live.contains id
  (ledger.blocks.size - blocks.size, { ledger with blocks })

def contains (ledger : Ledger) (id : BlockId) : Bool :=
  ledger.blocks.contains id

def record? (ledger : Ledger) (id : BlockId) : Option BlockRecord :=
  ledger.blocks.find? id

def blockIds (ledger : Ledger) : List BlockId :=
  ledger.blocks.keys

def heldBy (ledger : Ledger) (peer : PeerId) : List BlockId :=
  (ledger.blocks.filter fun _ record => decide (record.holder = peer)).keys

def size (ledger : Ledger) : Nat :=
  ledger.blocks.size

/-! ## Challenges -/

def proofAt (ledger : Ledger) (id : BlockId) (instant : Instant) :
    Except NoEvidence HourlyProof :=
  match ledger.record? id with
  | none => .error { block := id, hour := none }
  | some record =>
      match record.calendar.proofAt? instant with
      | none => .error { block := id, hour := some (record.calendar.hourOf instant) }
      | some proof => .ok proof

def challengeSalt (ledger : Ledger) (id : BlockId) (instant : Instant) :
    Except NoEvidence Bytes :=
  match ledger.proofAt id instant with
  | .error fault => .error fault
  | .ok proof => .ok proof.salt

/-- Whether a text is the expected answer, character for character. -/
def confirm (ledger : Ledger) (id : BlockId) (instant : Instant) (candidate : String) :
    Except NoEvidence Bool :=
  match ledger.proofAt id instant with
  | .error fault => .error fault
  | .ok proof => .ok (decide (proof.expected = candidate))

/-- The message that challenges a holder. -/
def challenge (ledger : Ledger) (id : BlockId) (instant : Instant) :
    Except NoEvidence EvidenceMessage :=
  match ledger.challengeSalt id instant with
  | .error fault => .error fault
  | .ok salt => .ok { block := id, kind := .challenge, payload := salt }

/-- The text a response carries, if it is one. -/
def responseText? (message : EvidenceMessage) : Option String :=
  match message.kind with
  | .challenge => none
  | .response => (Text.Utf8.decode message.payload).toOption

/-- Judges a response. What carries no answer is wrong, but an unknown block or
hour is reported first. -/
def verify (ledger : Ledger) (message : EvidenceMessage) (instant : Instant) :
    Except NoEvidence Bool :=
  match responseText? message with
  | some candidate => ledger.confirm message.block instant candidate
  | none =>
      match ledger.proofAt message.block instant with
      | .error fault => .error fault
      | .ok _ => .ok false

end Ledger

/-- A holder's response to a challenge, from the bytes it holds. -/
def EvidenceMessage.answer (challenge : EvidenceMessage) (held : Bytes) : EvidenceMessage :=
  { block := challenge.block
    kind := .response
    payload := Text.Utf8.encode (saltedDigest challenge.payload held) }

end BlockCustody
