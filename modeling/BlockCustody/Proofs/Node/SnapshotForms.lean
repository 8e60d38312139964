import BlockCustody.Proofs.Exchange.Snapshot
import BlockCustody.Proofs.Replication.Snapshot

/-!
Contract: what a node keeps of its trackers and books over a restart.

Owns:
- what comes back from the bytes a tracker or a book wrote, in any order of set members;
- what the targets and the settings of the new start decide.

Does not own: ledgers, whose snapshots have one form.
-/

namespace BlockCustody

open Snapshot

/-- The bytes a tracker or a book writes are a form of it, and each of its forms gives it back
with every entry and every contract, under whatever monotone targets or settings the node
starts with. These decide shortfalls and the contracts of peers not in the snapshot, nothing
else. Targets that decrease refuse all bytes as malformed. -/
theorem tracker_and_book_come_back_from_each_form :
    (∀ (tracker : ReplicationTracker) (bytes : Bytes),
      (tracker.toSnapshot = .ok bytes → tracker.SnapshotForm bytes) ∧
      (tracker.SnapshotForm bytes → ∀ targets : ReplicaTargets,
        (targets.Monotone → ∃ restored,
          ReplicationTracker.ofSnapshot targets bytes = .ok restored ∧
          restored.shards = tracker.shards ∧ restored.targets = targets ∧
          ∀ shard, restored.entry shard = tracker.entry shard ∧
            restored.requiredPeers shard =
              (tracker.entry shard).map fun entry =>
                targets.target entry.priority - entry.holders.size) ∧
        (¬ targets.Monotone →
          ReplicationTracker.ofSnapshot targets bytes =
            .error (.targets (.decreasingTargets targets))))) ∧
    (∀ (targets : ReplicaTargets) (bytes : Bytes), ¬ targets.Monotone →
      ∃ fault reason, ReplicationTracker.ofSnapshot targets bytes = .error fault ∧
        fault.message = malformed reason) ∧
    ∀ (book : ExchangeBook) (bytes : Bytes),
      (book.toSnapshot = .ok bytes → book.SnapshotForm bytes) ∧
      (book.SnapshotForm bytes → ∀ settings : ExchangeSettings, ∃ restored,
        ExchangeBook.ofSnapshot settings bytes = .ok restored ∧
        restored.contracts = book.contracts ∧ restored.settings = settings ∧
        ∀ peer, restored.contract peer =
          if peer ∈ book.peers then book.contract peer
          else ExchangeContract.fresh settings.mySlackBase settings.peerSlackBase) := by
  refine ⟨?_, fun _ bytes decreasing =>
    ReplicationTracker.ofSnapshot_of_decreasing decreasing bytes, ?_⟩
  · intro tracker bytes
    refine ⟨ReplicationTracker.snapshotForm_of_toSnapshot, fun isForm targets => ⟨?_, ?_⟩⟩
    · intro monotone
      refine ⟨_, ReplicationTracker.ofSnapshot_of_form isForm monotone, rfl, rfl, ?_⟩
      intro shard
      exact ⟨rfl, tracker.requiredPeers_with_targets monotone shard⟩
    · exact ReplicationTracker.ofSnapshot_of_form_of_decreasing isForm
  · intro book bytes
    refine ⟨ExchangeBook.snapshotForm_of_toSnapshot, fun isForm settings => ?_⟩
    exact ⟨_, ExchangeBook.ofSnapshot_of_form isForm settings, rfl, rfl,
      book.contract_with_settings settings⟩

/-- A peer known by a digest, whose identity is longer than an inline one. -/
def digestPeer : PeerId :=
  { bytes := 0x12 :: 32 :: List.replicate 32 9, wellFormed := by decide }

def heldByTwo : ReplicaEntry :=
  { priority := .critical, holders := KeySet.ofList [.ofByte 7, digestPeer] }

def trackerOfShardHeldByTwo : ReplicationTracker :=
  { shards := KeyedMap.empty.insert (.repeating 5) heldByTwo
    targets := Settings.default.replication
    monotone := by decide }

/-- The snapshot with the holders in the order that the tracker does not write them in. -/
def otherHolderFirst : Bytes :=
  [1, 0, 0, 0] ++
    writeList (fun shard : ShardId =>
        writeId shard ++ (writeChoice 2 ++ writeList writePeer [digestPeer, .ofByte 7]))
      [.repeating 5]

def bookWithBothPeers : ExchangeBook :=
  let book := (ExchangeBook.empty Settings.default.exchange).setSlackBases (.ofByte 7) 3 4
  (book.add digestPeer .mine (.repeating 6)).2

theorem both_come_back_with_other_holder_first :
    trackerOfShardHeldByTwo.toSnapshot ≠ .ok otherHolderFirst ∧
      (∃ restored,
        ReplicationTracker.ofSnapshot { lax := 0, normal := 9, critical := 9 } otherHolderFirst =
          .ok restored ∧
        restored.shards = trackerOfShardHeldByTwo.shards ∧
        restored.requiredPeers (.repeating 5) = .ok 7) ∧
      (ReplicationTracker.ofSnapshot { lax := 2, normal := 1, critical := 9 } otherHolderFirst =
        .error (.targets (.decreasingTargets { lax := 2, normal := 1, critical := 9 }))) ∧
      (∃ fault reason,
        ReplicationTracker.ofSnapshot { lax := 2, normal := 1, critical := 9 } [] =
          .error fault ∧ fault.message = malformed reason) ∧
      ∃ bytes restored,
        bookWithBothPeers.toSnapshot = .ok bytes ∧
        ExchangeBook.ofSnapshot { mySlackBase := 1, peerSlackBase := 2 } bytes = .ok restored ∧
        restored.contracts = bookWithBothPeers.contracts ∧
        restored.contract (.ofByte 7) = bookWithBothPeers.contract (.ofByte 7) ∧
        restored.contract (.ofByte 8) = ExchangeContract.fresh 1 2 := by
  obtain ⟨trackers, decreasingRefused, books⟩ := tracker_and_book_come_back_from_each_form
  have isForm : trackerOfShardHeldByTwo.SnapshotForm otherHolderFirst := by
    refine ⟨_, ⟨fun _ _ => writeChoice 2 ++ writeList writePeer [digestPeer, .ofByte 7], ?_, rfl⟩,
      by decide +kernel⟩
    intro entry member
    have onlyEntry : entry = (.repeating 5, heldByTwo) := List.mem_singleton.mp member
    subst onlyEntry
    exact ⟨_, ⟨[digestPeer, .ofByte 7], by decide, rfl⟩, rfl⟩
  have restores := (trackers trackerOfShardHeldByTwo otherHolderFirst).2 isForm
  refine ⟨by decide +kernel, ?_, (restores _).2 (by decide), decreasingRefused _ [] (by decide), ?_⟩
  · obtain ⟨restored, isRestored, sameShards, _, answers⟩ :=
      (restores { lax := 0, normal := 9, critical := 9 }).1 (by decide)
    exact ⟨restored, isRestored, sameShards, (answers (.repeating 5)).2.trans (by decide)⟩
  · cases isWritten : bookWithBothPeers.toSnapshot with
    | error fault =>
        have written : bookWithBothPeers.toSnapshot.toBool = true := by decide +kernel
        rw [isWritten] at written
        cases written
    | ok bytes =>
        have restoresBook := books bookWithBothPeers bytes
        obtain ⟨restored, isRestored, sameContracts, _, seen⟩ :=
          restoresBook.2 (restoresBook.1 isWritten) { mySlackBase := 1, peerSlackBase := 2 }
        refine ⟨bytes, restored, rfl, isRestored, sameContracts, ?_, ?_⟩
        · exact (seen (.ofByte 7)).trans (if_pos (by decide))
        · exact (seen (.ofByte 8)).trans (if_neg (by decide))

end BlockCustody
