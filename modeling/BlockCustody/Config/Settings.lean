/-!
Contract: the settings of a node.

Owns:
- the sections of settings with their fields, and the default of every field;
- the replica targets and the rule that they may not decrease.

Does not own: the text form of settings, and where they are kept.
-/

namespace BlockCustody

/-- How many peers should hold a shard of each priority. -/
structure ReplicaTargets where
  lax : UInt64
  normal : UInt64
  critical : UInt64
deriving DecidableEq, Repr

/-- More important shards are wanted by at least as many peers. -/
def ReplicaTargets.Monotone (targets : ReplicaTargets) : Prop :=
  targets.lax ≤ targets.normal ∧ targets.normal ≤ targets.critical

instance (targets : ReplicaTargets) : Decidable targets.Monotone :=
  inferInstanceAs (Decidable (_ ∧ _))

/-- The slack a new exchange contract grants each side. -/
structure ExchangeSettings where
  mySlackBase : UInt64
  peerSlackBase : UInt64
deriving DecidableEq, Repr

/-- The length of challenge salts, and how many hours a calendar may span. -/
structure ProofSettings where
  saltLength : UInt64
  maxWindowHours : UInt32
deriving DecidableEq, Repr

/-- How hard to compress shards, and the length of a package's salt. -/
structure PackagingSettings where
  compressionLevel : Int32
  saltLength : UInt64
deriving DecidableEq, Repr

/-- How long storage must have been quiet before an upload runs. -/
structure UploadSettings where
  quietPeriodMs : UInt64
deriving DecidableEq, Repr

/-- All settings of a node. -/
structure Settings where
  replication : ReplicaTargets
  exchange : ExchangeSettings
  proof : ProofSettings
  packaging : PackagingSettings
  upload : UploadSettings
  dataDirectory : Option String
deriving DecidableEq, Repr

namespace Settings

/-- Settings when nothing else is said. -/
def default : Settings :=
  { replication := { lax := 1, normal := 3, critical := 6 }
    exchange := { mySlackBase := 0, peerSlackBase := 0 }
    proof := { saltLength := 32, maxWindowHours := 8784 }
    packaging := { compressionLevel := 3, saltLength := 32 }
    upload := { quietPeriodMs := 30000 }
    dataDirectory := none }

end Settings

end BlockCustody
