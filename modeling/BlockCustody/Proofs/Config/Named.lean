import BlockCustody.Config.Text
import BlockCustody.Proofs.Json.Members

/-!
Contract: what a text of settings may name.

Owns:
- the values that may be named, section by section;
- settings with named values in place of their own;
- which texts name which values, in any order and among whatever else.

Does not own: how such texts are read, and texts whose sections are lists.
-/

namespace BlockCustody.Settings

open Json Json.Grammar

/-! ## Named values -/

structure NamedTargets where
  lax : Option UInt64
  normal : Option UInt64
  critical : Option UInt64

structure NamedExchange where
  mySlackBase : Option UInt64
  peerSlackBase : Option UInt64

structure NamedProof where
  saltLength : Option UInt64
  maxWindowHours : Option UInt32

structure NamedPackaging where
  compressionLevel : Option Int32
  saltLength : Option UInt64

structure NamedUpload where
  quietPeriodMs : Option UInt64

/-- The values that a text names. A section may be named without any of its fields, and that
there is no directory is a value too. -/
structure Named where
  replication : Option NamedTargets
  exchange : Option NamedExchange
  proof : Option NamedProof
  packaging : Option NamedPackaging
  upload : Option NamedUpload
  dataDirectory : Option (Option String)

/-- Everything that settings hold, named. -/
def everythingNamed (settings : Settings) : Named :=
  { replication := some
      { lax := some settings.replication.lax
        normal := some settings.replication.normal
        critical := some settings.replication.critical }
    exchange := some
      { mySlackBase := some settings.exchange.mySlackBase
        peerSlackBase := some settings.exchange.peerSlackBase }
    proof := some
      { saltLength := some settings.proof.saltLength
        maxWindowHours := some settings.proof.maxWindowHours }
    packaging := some
      { compressionLevel := some settings.packaging.compressionLevel
        saltLength := some settings.packaging.saltLength }
    upload := some { quietPeriodMs := some settings.upload.quietPeriodMs }
    dataDirectory := some settings.dataDirectory }

/-! ## Overlay -/

def NamedTargets.atop (named : NamedTargets) (targets : ReplicaTargets) : ReplicaTargets :=
  { lax := named.lax.getD targets.lax
    normal := named.normal.getD targets.normal
    critical := named.critical.getD targets.critical }

def NamedExchange.atop (named : NamedExchange) (settings : ExchangeSettings) :
    ExchangeSettings :=
  { mySlackBase := named.mySlackBase.getD settings.mySlackBase
    peerSlackBase := named.peerSlackBase.getD settings.peerSlackBase }

def NamedProof.atop (named : NamedProof) (settings : ProofSettings) : ProofSettings :=
  { saltLength := named.saltLength.getD settings.saltLength
    maxWindowHours := named.maxWindowHours.getD settings.maxWindowHours }

def NamedPackaging.atop (named : NamedPackaging) (settings : PackagingSettings) :
    PackagingSettings :=
  { compressionLevel := named.compressionLevel.getD settings.compressionLevel
    saltLength := named.saltLength.getD settings.saltLength }

def NamedUpload.atop (named : NamedUpload) (settings : UploadSettings) : UploadSettings :=
  { quietPeriodMs := named.quietPeriodMs.getD settings.quietPeriodMs }

/-- The settings with every named value in place of its own. -/
def Named.atop (named : Named) (settings : Settings) : Settings :=
  { replication := named.replication.elim settings.replication (·.atop settings.replication)
    exchange := named.exchange.elim settings.exchange (·.atop settings.exchange)
    proof := named.proof.elim settings.proof (·.atop settings.proof)
    packaging := named.packaging.elim settings.packaging (·.atop settings.packaging)
    upload := named.upload.elim settings.upload (·.atop settings.upload)
    dataDirectory := named.dataDirectory.getD settings.dataDirectory }

/-! ## Texts -/

/-- Whole numbers have a single spelling. -/
def IsWord (text : List Char) (value : UInt64) : Prop :=
  text = writeWord value

def IsHours (text : List Char) (value : UInt32) : Prop :=
  text = writeNatural value.toNat

def IsLevel (text : List Char) (value : Int32) : Prop :=
  text = writeInteger value.toInt

/-- A directory in any spelling, or nothing. -/
def IsDirectory (text : List Char) : Option String → Prop
  | none => text = writeNothing
  | some directory =>
      ∃ quoted, text = '"' :: (quoted ++ ['"']) ∧ Spells quoted directory.toList

structure NamedTargets.Among (named : NamedTargets) (members : List (String × List Char)) :
    Prop where
  lax : Names "lax" IsWord members named.lax
  normal : Names "normal" IsWord members named.normal
  critical : Names "critical" IsWord members named.critical
  others : OthersAreValues ["lax", "normal", "critical"] members

structure NamedExchange.Among (named : NamedExchange) (members : List (String × List Char)) :
    Prop where
  mySlackBase : Names "my_slack_base" IsWord members named.mySlackBase
  peerSlackBase : Names "peer_slack_base" IsWord members named.peerSlackBase
  others : OthersAreValues ["my_slack_base", "peer_slack_base"] members

structure NamedProof.Among (named : NamedProof) (members : List (String × List Char)) :
    Prop where
  saltLength : Names "salt_len" IsWord members named.saltLength
  maxWindowHours : Names "max_window_hours" IsHours members named.maxWindowHours
  others : OthersAreValues ["salt_len", "max_window_hours"] members

structure NamedPackaging.Among (named : NamedPackaging) (members : List (String × List Char)) :
    Prop where
  compressionLevel : Names "compression_level" IsLevel members named.compressionLevel
  saltLength : Names "salt_len" IsWord members named.saltLength
  others : OthersAreValues ["compression_level", "salt_len"] members

structure NamedUpload.Among (named : NamedUpload) (members : List (String × List Char)) :
    Prop where
  quietPeriodMs : Names "quiet_period_ms" IsWord members named.quietPeriodMs
  others : OthersAreValues ["quiet_period_ms"] members

/-- An object with members of which some name the values and the others are for nobody. -/
def IsSection {part : Type} (Among : part → List (String × List Char) → Prop)
    (text : List Char) (named : part) : Prop :=
  ∃ members, Object members text ∧ Among named members

structure Named.Among (named : Named) (members : List (String × List Char)) : Prop where
  replication : Names "replication" (IsSection NamedTargets.Among) members named.replication
  exchange : Names "exchange" (IsSection NamedExchange.Among) members named.exchange
  proof : Names "proof" (IsSection NamedProof.Among) members named.proof
  packaging : Names "packaging" (IsSection NamedPackaging.Among) members named.packaging
  upload : Names "upload" (IsSection NamedUpload.Among) members named.upload
  dataDirectory : Names "data_dir" IsDirectory members named.dataDirectory
  others : OthersAreValues
    ["replication", "exchange", "proof", "packaging", "upload", "data_dir"] members

/-- The text is an object that names these values and no others, with blanks, unknown members
and an order of its own. -/
def Named.DescribedBy (named : Named) (text : String) : Prop :=
  ∃ object, Padded object text.toList ∧ IsSection Named.Among object named

end BlockCustody.Settings
