import BlockCustody.Bytes.LittleEndian
import BlockCustody.Config.Settings
import BlockCustody.Json.Record
import BlockCustody.Text.Utf8

/-!
Contract: settings as text.

Owns:
- reading settings, in which everything left out has its default;
- the rule that the replica targets read, defaults included, may not decrease;
- settings from the bytes of a file, which may be missing;
- writing settings.

Does not own: the defaults, and where files are kept.
-/

namespace BlockCustody

/-- Why a text or a file holds no settings. -/
inductive SettingsFault where
  | missingFile
  | notText
  | malformed (fault : Json.Fault)
  | decreasingTargets
deriving DecidableEq, Repr

def SettingsFault.message : SettingsFault → String
  | .missingFile => "IO error: No such file or directory (os error 2)"
  | .notText => "IO error: stream did not contain valid UTF-8"
  | .malformed fault => "Invalid config: " ++ fault.message
  | .decreasingTargets => "Replica targets must not decrease with priority"

namespace Settings

open Json

/-! ## Fields -/

/-- Counts of 64 bits, as messages call them. -/
def sizeKind : IntegerKind :=
  { least := 0, greatest := 0xFFFFFFFFFFFFFFFF, name := "usize" }

/-- Amounts of 64 bits. -/
def amountKind : IntegerKind :=
  { least := 0, greatest := 0xFFFFFFFFFFFFFFFF, name := "u64" }

/-- Amounts of 32 bits. -/
def hoursKind : IntegerKind :=
  { least := 0, greatest := 0xFFFFFFFF, name := "u32" }

/-- Numbers of 32 bits with a sign. -/
def levelKind : IntegerKind :=
  { least := -0x80000000, greatest := 0x7FFFFFFF, name := "i32" }

/-- A number of 64 bits. -/
def word64 (kind : IntegerKind) : Reader UInt64 := do
  return (← integer kind).toNat.toUInt64

/-- A field that holds a number of 64 bits. -/
def wordField {part : Type} (kind : IntegerKind) (name : String)
    (put : part → UInt64 → part) : RecordField part :=
  { name
    read := fun current => do return put current (← word64 kind) }

/-- The shape of a section, of which any field may be left out. -/
def sectionShape {part : Type} (title : String) (fields : List (RecordField part))
    (default : part) : Shape part part :=
  { title
    fields
    mayBeShort := true
    blank := default
    finish := .ok }

def targetsShape : Shape ReplicaTargets ReplicaTargets :=
  sectionShape "struct ReplicationTargets"
    [ wordField sizeKind "lax" fun targets lax => { targets with lax },
      wordField sizeKind "normal" fun targets normal => { targets with normal },
      wordField sizeKind "critical" fun targets critical => { targets with critical } ]
    default.replication

def exchangeShape : Shape ExchangeSettings ExchangeSettings :=
  sectionShape "struct ExchangeConfig"
    [ wordField amountKind "my_slack_base" fun settings mySlackBase =>
        { settings with mySlackBase },
      wordField amountKind "peer_slack_base" fun settings peerSlackBase =>
        { settings with peerSlackBase } ]
    default.exchange

def proofShape : Shape ProofSettings ProofSettings :=
  sectionShape "struct ProofConfig"
    [ wordField sizeKind "salt_len" fun settings saltLength => { settings with saltLength },
      { name := "max_window_hours"
        read := fun settings => do
          return { settings with maxWindowHours := (← integer hoursKind).toNat.toUInt32 } } ]
    default.proof

def packagingShape : Shape PackagingSettings PackagingSettings :=
  sectionShape "struct PackagingConfig"
    [ { name := "compression_level"
        read := fun settings => do
          return { settings with compressionLevel := (← integer levelKind).toInt32 } },
      wordField sizeKind "salt_len" fun settings saltLength => { settings with saltLength } ]
    default.packaging

def uploadShape : Shape UploadSettings UploadSettings :=
  sectionShape "struct UploadConfig"
    [ wordField amountKind "quiet_period_ms" fun settings quietPeriodMs =>
        { settings with quietPeriodMs } ]
    default.upload

/-- The sections in their order. -/
def shape : Shape Settings Settings :=
  sectionShape "struct BackupConfig"
    [ { name := "replication"
        read := fun settings => do
          return { settings with replication := ← targetsShape.read } },
      { name := "exchange"
        read := fun settings => do
          return { settings with exchange := ← exchangeShape.read } },
      { name := "proof"
        read := fun settings => do return { settings with proof := ← proofShape.read } },
      { name := "packaging"
        read := fun settings => do
          return { settings with packaging := ← packagingShape.read } },
      { name := "upload"
        read := fun settings => do return { settings with upload := ← uploadShape.read } },
      { name := "data_dir"
        read := fun settings => do
          return { settings with dataDirectory := ← optional (string "path string") } } ]
    default

/-! ## Reading -/

/-- The settings a text describes. -/
def ofText (text : String) : Except SettingsFault Settings :=
  match whole shape.read text with
  | .error fault => .error (.malformed fault)
  | .ok settings =>
      if settings.replication.Monotone then .ok settings else .error .decreasingTargets

/-- The settings in a file, given by its bytes unless it is missing. -/
def ofFile : Option Bytes → Except SettingsFault Settings
  | none => .error .missingFile
  | some bytes =>
      match Text.Utf8.decode bytes with
      | .error _ => .error .notText
      | .ok text => ofText text

/-- The directory for everything a node keeps. -/
def directory (settings : Settings) (standard : String) : String :=
  settings.dataDirectory.getD standard

/-! ## Writing -/

def writeWord (value : UInt64) : List Char :=
  writeNatural value.toNat

/-- The members of every section, in order. -/
def written (settings : Settings) : List Char :=
  writeObject
    [ ("replication", writeObject
        [ ("lax", writeWord settings.replication.lax),
          ("normal", writeWord settings.replication.normal),
          ("critical", writeWord settings.replication.critical) ]),
      ("exchange", writeObject
        [ ("my_slack_base", writeWord settings.exchange.mySlackBase),
          ("peer_slack_base", writeWord settings.exchange.peerSlackBase) ]),
      ("proof", writeObject
        [ ("salt_len", writeWord settings.proof.saltLength),
          ("max_window_hours", writeNatural settings.proof.maxWindowHours.toNat) ]),
      ("packaging", writeObject
        [ ("compression_level", writeInteger settings.packaging.compressionLevel.toInt),
          ("salt_len", writeWord settings.packaging.saltLength) ]),
      ("upload", writeObject
        [ ("quiet_period_ms", writeWord settings.upload.quietPeriodMs) ]),
      ("data_dir", match settings.dataDirectory with
        | none => writeNothing
        | some directory => writeQuoted directory) ]

/-- The settings as text, every field named. -/
def toText (settings : Settings) : String :=
  String.ofList settings.written

end Settings

end BlockCustody
