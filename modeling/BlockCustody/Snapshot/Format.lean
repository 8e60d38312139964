import BlockCustody.Calendar.TimestampText
import BlockCustody.Collections.KeyedMap
import BlockCustody.Reading.FrontReader
import BlockCustody.Text.Utf8

/-!
Contract: the binary format of packages and snapshots.

Owns:
- numbers of fixed width, flags, counted byte strings, texts, lists, sets and maps;
- readers of all these, which take a value off the front of a byte string;
- the faults of bytes that are not the written form of a value, and their wording.

Does not own: which fields a particular value is written with.
-/

namespace BlockCustody.Snapshot

/-- Why bytes are not the written form of a value. -/
inductive FormatFault where
  | endOfInput
  | textCutOff
  | bytesLeftOver
  | flag (byte : UInt8)
  | choice (index count : Nat)
  | text (fault : Text.Utf8Fault)
  | peer
  | timestamp (fault : Calendar.TimestampFault)
deriving DecidableEq, Repr

def FormatFault.message : FormatFault → String
  | .endOfInput => "io error: unexpected end of file"
  | .textCutOff => "io error: "
  | .bytesLeftOver => "Slice had bytes remaining after deserialization"
  | .flag byte =>
      "invalid u8 while decoding bool, expected 0 or 1, found " ++ toString byte.toNat
  | .choice index count =>
      "invalid value: integer \x60" ++ toString index ++
        "\x60, expected variant index 0 <= i < " ++ toString count
  | .text fault => "string is not valid utf8: " ++ fault.message
  | .peer => "invalid value: byte array, expected valid peer id"
  | .timestamp fault => fault.message

/-! ## Writing -/

/-- Numbers of 64 bits: counts, lengths and bases. -/
def writeNumber (number : Nat) : Bytes :=
  LittleEndian.encode 8 number

def writeFlag (flag : Bool) : Bytes :=
  [if flag then 1 else 0]

def writeChoice (index : Nat) : Bytes :=
  LittleEndian.encode 4 index

def writeBytes (bytes : Bytes) : Bytes :=
  writeNumber bytes.length ++ bytes

def writeText (text : String) : Bytes :=
  writeBytes (Text.Utf8.encode text)

def writeId (id : ContentId) : Bytes :=
  id.bytes

def writePeer (peer : PeerId) : Bytes :=
  writeBytes peer.bytes

def writeInstant (instant : Instant) : Bytes :=
  writeText (Calendar.Timestamp.render instant)

/-- The number of items, then the items. -/
def writeList {α : Type} (writeItem : α → Bytes) (items : List α) : Bytes :=
  writeNumber items.length ++ items.flatMap writeItem

/-- A map as the list of its entries in the order of their keys. -/
def writeMap {key value : Type} [OrderedKey key]
    (writeKey : key → Bytes)
    (writeValue : value → Bytes)
    (map : KeyedMap key value) :
    Bytes :=
  writeList (fun entry => writeKey entry.1 ++ writeValue entry.2) map.entries

/-- A set as the list of its members in their order. -/
def writeSet {key : Type} [OrderedKey key] (writeKey : key → Bytes) (set : KeySet key) : Bytes :=
  writeList writeKey set.keys

/-! ## Reading -/

/-- Takes a value off the front of a byte string. -/
abbrev Reader := FrontReader UInt8 FormatFault

namespace Reader

open FrontReader (refuse items)

/-- The next `count` bytes; the fault says what is missing if there are fewer. -/
def takeBytes (fault : FormatFault) (count : Nat) : Reader Bytes :=
  fun input =>
    let taken := input.take count
    if taken.length < count then .error fault else .ok (taken, input.drop count)

def fixedNumber (width : Nat) : Reader Nat := do
  return LittleEndian.decode (← takeBytes .endOfInput width)

def number : Reader Nat :=
  fixedNumber 8

def flag : Reader Bool := do
  match ← takeBytes .endOfInput 1 with
  | [0] => return false
  | [1] => return true
  | [byte] => refuse (.flag byte)
  | _ => refuse .endOfInput

/-- The number of a choice among `count`. -/
def choice (count : Nat) : Reader Nat := do
  let index ← fixedNumber 4
  if index < count then return index else refuse (.choice index count)

def bytes : Reader Bytes := do
  takeBytes .endOfInput (← number)

def text : Reader String := do
  let content ← takeBytes .textCutOff (← number)
  match Text.Utf8.decode content with
  | .ok text => return text
  | .error fault => refuse (.text fault)

def id : Reader ContentId := do
  match ContentId.ofBytes? (← takeBytes .endOfInput 32) with
  | some id => return id
  | none => refuse .endOfInput

def peer : Reader PeerId := do
  match PeerId.ofBytes? (← takeBytes .textCutOff (← number)) with
  | some peer => return peer
  | none => refuse .peer

def instant : Reader Instant := do
  match Calendar.Timestamp.read (← text) with
  | .ok instant => return instant
  | .error fault => refuse (.timestamp fault)

def list {α : Type} (item : Reader α) : Reader (List α) := do
  items item (← number) []

/-- A map from a list of entries in any order; of two with the same key the later
one counts. -/
def map {key value : Type} [OrderedKey key] (readKey : Reader key) (readValue : Reader value) :
    Reader (KeyedMap key value) := do
  let entry : Reader (key × value) := do
    let key ← readKey
    return (key, ← readValue)
  return KeyedMap.ofList (← list entry)

/-- A set from a list of members in any order, with or without repetitions. -/
def set {key : Type} [OrderedKey key] (readKey : Reader key) : Reader (KeySet key) := do
  return KeySet.ofList (← list readKey)

/-- Reads a value from bytes that hold nothing else. -/
def whole {α : Type} (reader : Reader α) (input : Bytes) : Except FormatFault α :=
  match reader input with
  | .error fault => .error fault
  | .ok (value, rest) => if rest.isEmpty then .ok value else .error .bytesLeftOver

end Reader

end BlockCustody.Snapshot
