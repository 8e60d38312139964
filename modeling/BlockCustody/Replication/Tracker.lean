import BlockCustody.Config.Settings
import BlockCustody.Snapshot.Envelope

/-!
Contract: which peers hold each shard, and how many more should.

Owns:
- priorities, their order and their replica targets;
- registering shards, recording and dropping holders;
- the shortfall of a shard, and the views derived from it;
- snapshots of the tracker.

Does not own: the choice of peers.
-/

namespace BlockCustody

/-- How important it is to have a shard elsewhere. -/
inductive Priority where
  | lax
  | normal
  | critical
deriving DecidableEq, Repr

namespace Priority

def rank : Priority → Nat
  | .lax => 0
  | .normal => 1
  | .critical => 2

/-- The more important of two priorities. -/
def max (left right : Priority) : Priority :=
  if left.rank < right.rank then right else left

def name : Priority → String
  | .lax => "lax"
  | .normal => "normal"
  | .critical => "critical"

/-- The priority of a shard nobody asked for. -/
def lowest : Priority :=
  .lax

end Priority

/-- The number of peers wanted at a priority. -/
def ReplicaTargets.target (targets : ReplicaTargets) : Priority → Nat
  | .lax => targets.lax.toNat
  | .normal => targets.normal.toNat
  | .critical => targets.critical.toNat

/-- The targets as they are shown in messages. -/
def ReplicaTargets.describe (targets : ReplicaTargets) : String :=
  "ReplicationTargets \x7b lax: " ++ toString targets.lax ++ ", normal: " ++
    toString targets.normal ++ ", critical: " ++ toString targets.critical ++ " \x7d"

/-- What is known of a shard. -/
structure ReplicaEntry where
  priority : Priority
  holders : KeySet PeerId
deriving DecidableEq

/-- Why an operation on the tracker was refused. -/
inductive TrackerFault where
  | notRegistered (shard : ShardId)
  | decreasingTargets (targets : ReplicaTargets)
deriving DecidableEq

def TrackerFault.message : TrackerFault → String
  | .notRegistered shard => "Shard not registered: " ++ shard.toHex
  | .decreasingTargets targets =>
      "Replica targets must not decrease with priority: " ++ targets.describe

/-- Entries by shard, under targets that do not decrease. -/
structure ReplicationTracker where
  shards : KeyedMap ShardId ReplicaEntry
  targets : ReplicaTargets
  monotone : targets.Monotone

namespace ReplicationTracker

/-- A tracker of no shards, if the targets allow one. -/
def start (targets : ReplicaTargets) : Except TrackerFault ReplicationTracker :=
  if monotone : targets.Monotone then
    .ok { shards := KeyedMap.empty, targets, monotone }
  else .error (.decreasingTargets targets)

/-! ## Shards and holders -/

/-- Makes a shard known at a priority, or raises the priority it has. -/
def register (tracker : ReplicationTracker) (shard : ShardId) (priority : Priority) :
    ReplicationTracker :=
  let entry : ReplicaEntry :=
    match tracker.shards.find? shard with
    | none => { priority, holders := KeyedMap.empty }
    | some entry => { entry with priority := entry.priority.max priority }
  { tracker with shards := tracker.shards.insert shard entry }

/-- Changes the holders of a known shard. -/
def changeHolders
    (tracker : ReplicationTracker)
    (shard : ShardId)
    (change : KeySet PeerId → KeySet PeerId) :
    Except TrackerFault ReplicationTracker :=
  match tracker.shards.find? shard with
  | none => .error (.notRegistered shard)
  | some entry =>
      let entry := { entry with holders := change entry.holders }
      .ok { tracker with shards := tracker.shards.insert shard entry }

def addHolder (tracker : ReplicationTracker) (shard : ShardId) (peer : PeerId) :
    Except TrackerFault ReplicationTracker :=
  tracker.changeHolders shard fun holders => KeySet.add holders peer

def removeHolder (tracker : ReplicationTracker) (shard : ShardId) (peer : PeerId) :
    Except TrackerFault ReplicationTracker :=
  tracker.changeHolders shard fun holders => holders.erase peer

/-- Records that a peer holds a shard, which becomes known by that if need be. -/
def adoptHolder (tracker : ReplicationTracker) (shard : ShardId) (peer : PeerId) :
    ReplicationTracker :=
  let entry : ReplicaEntry :=
    (tracker.shards.find? shard).getD
      { priority := Priority.lowest, holders := KeyedMap.empty }
  let entry := { entry with holders := KeySet.add entry.holders peer }
  { tracker with shards := tracker.shards.insert shard entry }

/-- Drops a peer as a holder of everything, and says how many shards it held. -/
def dropPeer (tracker : ReplicationTracker) (peer : PeerId) : Nat × ReplicationTracker :=
  let held := tracker.shards.filter fun _ entry => entry.holders.contains peer
  let shards :=
    tracker.shards.mapValues fun entry => { entry with holders := entry.holders.erase peer }
  (held.size, { tracker with shards })

/-! ## What is missing -/

/-- How many holders an entry is short of its target. -/
def shortfall (tracker : ReplicationTracker) (entry : ReplicaEntry) : Nat :=
  tracker.targets.target entry.priority - entry.holders.size

def entry (tracker : ReplicationTracker) (shard : ShardId) : Except TrackerFault ReplicaEntry :=
  match tracker.shards.find? shard with
  | none => .error (.notRegistered shard)
  | some entry => .ok entry

/-- How many more holders a shard needs. -/
def requiredPeers (tracker : ReplicationTracker) (shard : ShardId) : Except TrackerFault Nat :=
  match tracker.entry shard with
  | .error fault => .error fault
  | .ok entry => .ok (tracker.shortfall entry)

/-- The known shards whose entries pass a test. -/
def select (tracker : ReplicationTracker) (keep : ReplicaEntry → Bool) : List ShardId :=
  (tracker.shards.filter fun _ entry => keep entry).keys

/-- Shards short of their target. -/
def needingPeers (tracker : ReplicationTracker) : List ShardId :=
  tracker.select fun entry => 0 < tracker.shortfall entry

/-- Shards short of their target that a peer does not hold yet. -/
def needingPeersExcluding (tracker : ReplicationTracker) (peer : PeerId) : List ShardId :=
  tracker.select fun entry => 0 < tracker.shortfall entry && !entry.holders.contains peer

/-- Shards short of their target that somebody holds. -/
def partiallyDeployed (tracker : ReplicationTracker) : List ShardId :=
  tracker.select fun entry => !entry.holders.isEmpty && 0 < tracker.shortfall entry

/-- Shards that meet their target. -/
def fullyDeployed (tracker : ReplicationTracker) : List ShardId :=
  tracker.select fun entry => tracker.shortfall entry = 0

def size (tracker : ReplicationTracker) : Nat :=
  tracker.shards.size

/-! ## Snapshots -/

open Snapshot

def writeEntry (entry : ReplicaEntry) : Bytes :=
  writeChoice entry.priority.rank ++ writeSet writePeer entry.holders

def readPriority : Reader Priority := do
  match ← Reader.choice 3 with
  | 0 => return .lax
  | 1 => return .normal
  | _ => return .critical

def readEntry : Reader ReplicaEntry := do
  let priority ← readPriority
  return { priority, holders := ← Reader.set Reader.peer }

/-- Why bytes could not be restored as a tracker. -/
inductive RestoreFault where
  | snapshot (fault : ReadFault)
  | targets (fault : TrackerFault)
deriving DecidableEq

def RestoreFault.message : RestoreFault → String
  | .snapshot fault => malformed fault.message
  | .targets fault => malformed fault.message

def toSnapshot (tracker : ReplicationTracker) : Except WriteFault Bytes :=
  write (writeMap writeId writeEntry tracker.shards)

/-- The tracker in a snapshot, under the given targets. The bytes are judged
before the targets. -/
def ofSnapshot (targets : ReplicaTargets) (bytes : Bytes) :
    Except RestoreFault ReplicationTracker :=
  match read (Reader.map Reader.id readEntry) bytes with
  | .error fault => .error (.snapshot fault)
  | .ok shards =>
      match start targets with
      | .error fault => .error (.targets fault)
      | .ok tracker => .ok { tracker with shards }

end ReplicationTracker

end BlockCustody
