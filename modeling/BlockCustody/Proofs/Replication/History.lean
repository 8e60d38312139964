import BlockCustody.Proofs.Collections.Histories
import BlockCustody.Proofs.Collections.KeySet
import BlockCustody.Replication.Tracker

/-!
Contract: what happens to a replication tracker, seen from a single shard.

Owns:
- the events of a tracker and runs of them;
- what an event makes of the entry of one shard, whatever it does to others;
- dropping a peer as removing it from one shard after another.

Does not own: what follows for whole runs.
-/

namespace BlockCustody

/-- What happens to a tracker. -/
inductive TrackerEvent where
  | registered (shard : ShardId) (priority : Priority)
  | holderAdded (shard : ShardId) (peer : PeerId)
  | holderRemoved (shard : ShardId) (peer : PeerId)
  | holderAdopted (shard : ShardId) (peer : PeerId)
  | peerDropped (peer : PeerId)
deriving DecidableEq

namespace ReplicaEntry

/-- A shard that nobody holds yet. -/
def unheld (priority : Priority) : ReplicaEntry :=
  { priority, holders := KeyedMap.empty }

def raise (entry : ReplicaEntry) (priority : Priority) : ReplicaEntry :=
  { entry with priority := entry.priority.max priority }

def withHolder (entry : ReplicaEntry) (peer : PeerId) : ReplicaEntry :=
  { entry with holders := KeySet.add entry.holders peer }

def withoutHolder (entry : ReplicaEntry) (peer : PeerId) : ReplicaEntry :=
  { entry with holders := entry.holders.erase peer }

variable (entry : ReplicaEntry) (changed peer : PeerId)

theorem contains_withHolder :
    (entry.withHolder changed).holders.contains peer = true ↔
      changed = peer ∨ entry.holders.contains peer = true :=
  KeySet.contains_add

theorem contains_withoutHolder :
    (entry.withoutHolder changed).holders.contains peer = true ↔
      entry.holders.contains peer = true ∧ ¬ changed = peer := by
  rw [withoutHolder, KeyedMap.contains, KeyedMap.contains, KeyedMap.find?_erase]
  by_cases same : peer = changed
  · simp [same]
  · simp [same, Ne.symm same]

theorem withoutHolder_withoutHolder :
    (entry.withoutHolder peer).withoutHolder peer = entry.withoutHolder peer := by
  have sameHolders : (entry.holders.erase peer).erase peer = entry.holders.erase peer :=
    KeyedMap.erase_of_absent (KeyedMap.contains_erase_self entry.holders peer)
  rw [withoutHolder, withoutHolder, sameHolders]

end ReplicaEntry

/-- What an event makes of the entry of one shard, if the shard has one. -/
def TrackerEvent.entryAfter (shard : ShardId) :
    TrackerEvent → Option ReplicaEntry → Option ReplicaEntry
  | .registered target priority, before? =>
      if target = shard then
        some (before?.elim (.unheld priority) fun entry => entry.raise priority)
      else before?
  | .holderAdded target peer, before? =>
      if target = shard then before?.map fun entry => entry.withHolder peer else before?
  | .holderRemoved target peer, before? =>
      if target = shard then before?.map fun entry => entry.withoutHolder peer else before?
  | .holderAdopted target peer, before? =>
      if target = shard then some ((before?.getD (.unheld .lowest)).withHolder peer) else before?
  | .peerDropped peer, before? => before?.map fun entry => entry.withoutHolder peer

namespace ReplicationTracker

/-- The tracker after an attempt. One that is refused leaves it as it is. -/
def afterAttempt (tracker : ReplicationTracker) :
    Except TrackerFault ReplicationTracker → ReplicationTracker
  | .ok later => later
  | .error _ => tracker

def after (tracker : ReplicationTracker) : TrackerEvent → ReplicationTracker
  | .registered shard priority => tracker.register shard priority
  | .holderAdded shard peer => tracker.afterAttempt (tracker.addHolder shard peer)
  | .holderRemoved shard peer => tracker.afterAttempt (tracker.removeHolder shard peer)
  | .holderAdopted shard peer => tracker.adoptHolder shard peer
  | .peerDropped peer => (tracker.dropPeer peer).2

/-- The tracker after events in the order in which they happened. -/
def run (tracker : ReplicationTracker) (history : List TrackerEvent) : ReplicationTracker :=
  history.foldl after tracker

def entryOf? (tracker : ReplicationTracker) (shard : ShardId) : Option ReplicaEntry :=
  tracker.shards.find? shard

/-- The shard has an entry. -/
def Knows (tracker : ReplicationTracker) (shard : ShardId) : Prop :=
  ∃ entry, tracker.entry shard = .ok entry

/-- The peer is among the holders of the shard. -/
def Holds (tracker : ReplicationTracker) (shard : ShardId) (peer : PeerId) : Prop :=
  ∃ entry, tracker.entry shard = .ok entry ∧ entry.holders.contains peer = true

variable {tracker : ReplicationTracker} {shard : ShardId} {peer : PeerId}

theorem entry_eq_ok_iff {entry : ReplicaEntry} :
    tracker.entry shard = .ok entry ↔ tracker.entryOf? shard = some entry := by
  rw [ReplicationTracker.entry, entryOf?]
  cases tracker.shards.find? shard <;> simp

theorem knows_iff : tracker.Knows shard ↔ (tracker.entryOf? shard).isSome = true := by
  simp only [Knows, entry_eq_ok_iff, Option.isSome_iff_exists]

theorem not_knows_iff : ¬ tracker.Knows shard ↔ tracker.entryOf? shard = none := by
  rw [knows_iff, Bool.not_eq_true, Option.isSome_eq_false_iff, Option.isNone_iff_eq_none]

theorem holds_iff :
    tracker.Holds shard peer ↔
      ∃ entry, tracker.entryOf? shard = some entry ∧ entry.holders.contains peer = true := by
  simp only [Holds, entry_eq_ok_iff]

/-! ## Refusals -/

theorem changeHolders_eq_error_iff {change : KeySet PeerId → KeySet PeerId}
    {fault : TrackerFault} :
    tracker.changeHolders shard change = .error fault ↔
      ¬ tracker.Knows shard ∧ fault = .notRegistered shard := by
  rw [not_knows_iff, entryOf?, changeHolders]
  cases tracker.shards.find? shard <;> simp [eq_comm]

theorem entry_eq_error_iff {fault : TrackerFault} :
    tracker.entry shard = .error fault ↔
      ¬ tracker.Knows shard ∧ fault = .notRegistered shard := by
  rw [not_knows_iff, entryOf?, ReplicationTracker.entry]
  cases tracker.shards.find? shard <;> simp [eq_comm]

theorem requiredPeers_eq_error_iff {fault : TrackerFault} :
    tracker.requiredPeers shard = .error fault ↔
      ¬ tracker.Knows shard ∧ fault = .notRegistered shard := by
  rw [← entry_eq_error_iff, requiredPeers]
  cases tracker.entry shard <;> simp

/-! ## Single events -/

/-- Trackers differ in an entry or in their targets. -/
theorem eq_of_entries_eq {left right : ReplicationTracker}
    (sameEntries : ∀ shard, left.entryOf? shard = right.entryOf? shard)
    (sameTargets : left.targets = right.targets) : left = right := by
  have sameShards : left.shards = right.shards := KeyedMap.eq_of_find?_eq sameEntries
  cases left
  cases right
  cases sameShards
  cases sameTargets
  rfl

theorem afterAttempt_of_not_knows (unknown : ¬ tracker.Knows shard)
    (change : KeySet PeerId → KeySet PeerId) :
    tracker.afterAttempt (tracker.changeHolders shard change) = tracker := by
  rw [changeHolders_eq_error_iff.mpr ⟨unknown, rfl⟩]
  rfl

theorem entryOf?_changeHolders (tracker : ReplicationTracker) (target shard : ShardId)
    (change : KeySet PeerId → KeySet PeerId) :
    (tracker.afterAttempt (tracker.changeHolders target change)).entryOf? shard =
      if target = shard then
        (tracker.entryOf? shard).map fun entry => { entry with holders := change entry.holders }
      else tracker.entryOf? shard := by
  simp only [changeHolders, entryOf?]
  by_cases same : target = shard
  · subst same
    cases found : tracker.shards.find? target <;> simp [afterAttempt, found]
  · cases tracker.shards.find? target <;>
      simp [afterAttempt, same, Ne.symm same, KeyedMap.find?_insert]

/-- An event changes each entry on its own. -/
theorem entryOf?_after (tracker : ReplicationTracker) (event : TrackerEvent) (shard : ShardId) :
    (tracker.after event).entryOf? shard = event.entryAfter shard (tracker.entryOf? shard) := by
  cases event with
  | registered target priority =>
      simp only [after, register, entryOf?, KeyedMap.find?_insert, TrackerEvent.entryAfter]
      by_cases same : target = shard
      · subst same
        cases tracker.shards.find? target <;> simp [ReplicaEntry.unheld, ReplicaEntry.raise]
      · simp [same, Ne.symm same]
  | holderAdded target peer => exact entryOf?_changeHolders tracker target shard _
  | holderRemoved target peer => exact entryOf?_changeHolders tracker target shard _
  | holderAdopted target peer =>
      simp only [after, adoptHolder, entryOf?, KeyedMap.find?_insert, TrackerEvent.entryAfter]
      by_cases same : target = shard
      · subst same
        simp [ReplicaEntry.unheld, ReplicaEntry.withHolder]
      · simp [same, Ne.symm same]
  | peerDropped peer => exact KeyedMap.find?_mapValues tracker.shards _ shard

theorem targets_changeHolders (tracker : ReplicationTracker) (shard : ShardId)
    (change : KeySet PeerId → KeySet PeerId) :
    (tracker.afterAttempt (tracker.changeHolders shard change)).targets = tracker.targets := by
  rw [changeHolders]
  cases tracker.shards.find? shard <;> rfl

theorem targets_after (tracker : ReplicationTracker) (event : TrackerEvent) :
    (tracker.after event).targets = tracker.targets := by
  cases event with
  | registered target priority => rfl
  | holderAdded target peer => exact targets_changeHolders tracker target _
  | holderRemoved target peer => exact targets_changeHolders tracker target _
  | holderAdopted target peer => rfl
  | peerDropped peer => rfl

/-! ## Runs -/

theorem run_append_singleton (tracker : ReplicationTracker) (history : List TrackerEvent)
    (event : TrackerEvent) :
    tracker.run (history ++ [event]) = (tracker.run history).after event :=
  List.foldl_concat ..

theorem targets_run (tracker : ReplicationTracker) (history : List TrackerEvent) :
    (tracker.run history).targets = tracker.targets := by
  induction history generalizing tracker with
  | nil => rfl
  | cons event later inductionHypothesis =>
      exact (inductionHypothesis (tracker.after event)).trans (targets_after tracker event)

/-- A peer that is removed from some shards is removed from each of them, in whatever
order they are gone through and however often. -/
theorem entryOf?_run_holderRemoved (tracker : ReplicationTracker) (peer : PeerId)
    (order : List ShardId) (shard : ShardId) :
    (tracker.run (order.map fun target => .holderRemoved target peer)).entryOf? shard =
      if shard ∈ order then (tracker.entryOf? shard).map fun entry => entry.withoutHolder peer
      else tracker.entryOf? shard := by
  induction order generalizing tracker with
  | nil => simp [run]
  | cons target others inductionHypothesis =>
      have laterRemovals := inductionHypothesis (tracker.after (.holderRemoved target peer))
      rw [entryOf?_after, TrackerEvent.entryAfter] at laterRemovals
      rw [List.map_cons, run, List.foldl_cons, ← run, laterRemovals]
      by_cases isTarget : target = shard
      · -- The shard may come again among the others, which takes nothing more away.
        subst isTarget
        simp [Function.comp_def, ReplicaEntry.withoutHolder_withoutHolder]
      · simp [isTarget, Ne.symm isTarget]

/-- Dropping a peer is removing it from all known shards, and from any others. -/
theorem run_holderRemoved_eq_dropPeer (tracker : ReplicationTracker) (peer : PeerId)
    {order : List ShardId} (all : ∀ shard, tracker.Knows shard → shard ∈ order) :
    tracker.run (order.map fun shard => .holderRemoved shard peer) =
      (tracker.dropPeer peer).2 := by
  apply eq_of_entries_eq
  · intro shard
    have dropped : (tracker.dropPeer peer).2.entryOf? shard = _ :=
      entryOf?_after tracker (.peerDropped peer) shard
    rw [entryOf?_run_holderRemoved, dropped, TrackerEvent.entryAfter]
    by_cases known : tracker.Knows shard
    · rw [if_pos (all shard known)]
    · rw [not_knows_iff.mp known]
      simp
  · rw [targets_run]
    rfl

/-- Dropping a peer says of how many shards it was a holder. -/
theorem fst_dropPeer (tracker : ReplicationTracker) (peer : PeerId) :
    ∃ held : List ShardId, held.Nodup ∧ (∀ shard, shard ∈ held ↔ tracker.Holds shard peer) ∧
      (tracker.dropPeer peer).1 = held.length := by
  let holds : KeyedMap ShardId ReplicaEntry :=
    tracker.shards.filter fun _ entry => entry.holders.contains peer
  refine ⟨holds.keys, holds.nodup_keys, ?_, holds.length_keys.symm⟩
  intro shard
  rw [KeyedMap.mem_keys_iff, KeyedMap.contains_eq_true_iff, holds_iff]
  simp only [holds, KeyedMap.find?_filter_eq_some_iff, entryOf?]

end ReplicationTracker

end BlockCustody
