import BlockCustody.Proofs.Snapshot.AnyOrder
import BlockCustody.Replication.Tracker

/-!
Contract: the tracker comes back from each form of its snapshot.

Owns:
- the forms of an entry and of a tracker, in which holders stand in any order;
- that they are read back as the shards of the tracker;
- that nothing is restored under targets that decrease, and that others are never at fault.

Does not own: what a tracker knows after a history.
-/

namespace BlockCustody.ReplicationTracker

open Snapshot

variable {tracker : ReplicationTracker} {targets : ReplicaTargets} {bytes : Bytes}

/-! ## Targets at the start -/

theorem start_of_monotone (monotone : targets.Monotone) :
    start targets = .ok { shards := KeyedMap.empty, targets, monotone } :=
  dif_pos monotone

theorem start_of_decreasing (decreasing : ¬ targets.Monotone) :
    start targets = .error (.decreasingTargets targets) :=
  dif_neg decreasing

/-! ## Forms -/

def entryForm : WrittenAs ReplicaEntry :=
  fun entry written => ∃ holders, setForm writePeer entry.holders holders ∧
    written = writeChoice entry.priority.rank ++ holders

/-- The bytes are the tracker's snapshot, with the holders of each shard in some order. -/
def SnapshotForm (tracker : ReplicationTracker) (bytes : Bytes) : Prop :=
  ∃ body, mapForm writeId entryForm tracker.shards body ∧ write body = .ok bytes

theorem snapshotForm_of_toSnapshot (isWritten : tracker.toSnapshot = .ok bytes) :
    tracker.SnapshotForm bytes := by
  have entryHasForm : ∀ entry, entryForm entry (writeEntry entry) :=
    fun entry => ⟨_, setForm_writeSet writePeer entry.holders, rfl⟩
  exact ⟨_, mapForm_writeMap entryHasForm tracker.shards, isWritten⟩

/-! ## Reading -/

theorem readPriority_readsBack (priority : Priority) :
    readPriority.ReadsBack (writeChoice priority.rank) priority := by
  have among : priority.rank < 3 := by cases priority <;> decide
  have fits : priority.rank < LittleEndian.capacity 4 := Nat.lt_trans among (by decide)
  refine (choice_readsBack among fits).bind_nil ?_
  cases priority with
  | lax => exact FrontReader.readsBack_pure _
  | normal => exact FrontReader.readsBack_pure _
  | critical => exact FrontReader.readsBack_pure _

theorem readEntry_restoresEach : RestoresEach readEntry entryForm := by
  rintro entry _ ⟨holders, isForm, rfl⟩ countable
  have holdersRead :=
    set_restoresEach peer_restores length_writePeer_pos _ _ isForm countable.right
  exact (readPriority_readsBack entry.priority).bind
    (holdersRead.bind_nil (FrontReader.readsBack_pure entry))

theorem read_of_snapshotForm (isForm : tracker.SnapshotForm bytes) :
    read (Reader.map Reader.id readEntry) bytes = .ok tracker.shards := by
  obtain ⟨body, bodyForm, isWritten⟩ := isForm
  have restores := map_restoresEach id_restores length_writeId_pos readEntry_restoresEach
  exact read_of_readsBack (restores _ _ bodyForm) isWritten

/-- What is restored from a form is the tracker, under the targets given. -/
theorem ofSnapshot_of_form (isForm : tracker.SnapshotForm bytes) (monotone : targets.Monotone) :
    ofSnapshot targets bytes = .ok { tracker with targets, monotone } := by
  simp only [ofSnapshot, read_of_snapshotForm isForm, start_of_monotone monotone]

/-! ## Other targets -/

/-- Shortfalls are those of the targets given, whatever the tracker's own are. -/
theorem requiredPeers_with_targets (tracker : ReplicationTracker) (monotone : targets.Monotone)
    (shard : ShardId) :
    { tracker with targets, monotone : ReplicationTracker }.requiredPeers shard =
      (tracker.entry shard).map fun entry =>
        targets.target entry.priority - entry.holders.size := by
  have sameEntry : { tracker with targets, monotone : ReplicationTracker }.entry shard =
      tracker.entry shard := rfl
  rw [requiredPeers, sameEntry]
  cases tracker.entry shard with
  | error fault => rfl
  | ok entry => rfl

theorem ofSnapshot_of_form_of_decreasing (isForm : tracker.SnapshotForm bytes)
    (decreasing : ¬ targets.Monotone) :
    ofSnapshot targets bytes = .error (.targets (.decreasingTargets targets)) := by
  simp only [ofSnapshot, read_of_snapshotForm isForm, start_of_decreasing decreasing]

/-- The bytes are judged first, but under decreasing targets none are accepted. -/
theorem ofSnapshot_of_decreasing (decreasing : ¬ targets.Monotone) (bytes : Bytes) :
    ∃ fault reason,
      ofSnapshot targets bytes = .error fault ∧ fault.message = malformed reason := by
  unfold ofSnapshot
  split
  · next fault refused => exact ⟨_, fault.message, rfl, rfl⟩
  · next shards isRead =>
      rw [start_of_decreasing decreasing]
      exact ⟨_, TrackerFault.message (.decreasingTargets targets), rfl, rfl⟩

/-- Under targets that do not decrease only the bytes can be at fault. -/
theorem ofSnapshot_ne_targets (monotone : targets.Monotone) (bytes : Bytes)
    (fault : TrackerFault) : ofSnapshot targets bytes ≠ .error (.targets fault) := by
  unfold ofSnapshot
  rw [start_of_monotone monotone]
  split
  · simp
  · simp

end BlockCustody.ReplicationTracker
