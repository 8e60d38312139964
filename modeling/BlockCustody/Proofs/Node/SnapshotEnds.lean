import BlockCustody.Exchange.Book
import BlockCustody.Ledger.Snapshot
import BlockCustody.Package.Basic
import BlockCustody.Proofs.Snapshot.SelfDelimiting
import BlockCustody.Replication.Tracker

/-!
Contract: packages and snapshots are accepted from end to end or not at all.

Owns:
- that the fields of packages, records, entries and contracts say where they end;
- what becomes of accepted packages and snapshots that are cut off or go on;
- that snapshots of another version are refused.

Does not own: which bytes are accepted.
-/

namespace BlockCustody

open Snapshot
open FrontReader (steady_pure)

/-! ## Fields -/

theorem Package.reader_selfDelimiting : SelfDelimiting Package.reader := by
  have storedDelimits : SelfDelimiting Package.readStored :=
    flag_selfDelimiting.bind fun _ => bytes_selfDelimiting.bind fun _ => steady_pure _
  exact bytes_selfDelimiting.bind fun _ =>
    (map_selfDelimiting id_selfDelimiting storedDelimits).bind fun _ => steady_pure _

theorem Ledger.readRecord_selfDelimiting : SelfDelimiting Ledger.readRecord := by
  have proofDelimits : SelfDelimiting Ledger.readProof :=
    bytes_selfDelimiting.bind fun _ => text_selfDelimiting.bind fun _ => steady_pure _
  refine instant_selfDelimiting.bind fun start => ?_
  refine (list_selfDelimiting proofDelimits).bind fun proofs => ?_
  refine peer_selfDelimiting.bind fun holder => ?_
  refine (list_selfDelimiting id_selfDelimiting).bind fun shards => ?_
  exact instant_selfDelimiting.bind fun validUntil => steady_pure _

theorem ReplicationTracker.readEntry_selfDelimiting :
    SelfDelimiting ReplicationTracker.readEntry := by
  have priorityDelimits : SelfDelimiting ReplicationTracker.readPriority := by
    refine (choice_selfDelimiting 3).bind fun index => ?_
    split
    · exact steady_pure _
    · exact steady_pure _
    · exact steady_pure _
  exact priorityDelimits.bind fun _ =>
    (set_selfDelimiting peer_selfDelimiting).bind fun _ => steady_pure _

theorem ExchangeBook.readContract_selfDelimiting :
    SelfDelimiting ExchangeBook.readContract := by
  refine (set_selfDelimiting id_selfDelimiting).bind fun mine => ?_
  refine (set_selfDelimiting id_selfDelimiting).bind fun theirs => ?_
  refine number_selfDelimiting.bind fun mySlackBase => ?_
  exact number_selfDelimiting.bind fun peerSlackBase => steady_pure _

/-! ## Components -/

theorem Package.ofBytes_endsExactly : EndsExactly Package.ofBytes id :=
  whole_endsExactly Package.reader_selfDelimiting

theorem Ledger.ofSnapshot_endsExactly (settings : ProofSettings) (salts : SaltStream) :
    EndsExactly (Ledger.ofSnapshot settings salts) fun reason => .snapshot (.format reason) := by
  have blocksEnd :=
    read_endsExactly (map_selfDelimiting id_selfDelimiting readRecord_selfDelimiting)
  exact blocksEnd.judged fun refused => by rw [Ledger.ofSnapshot, refused]

theorem ReplicationTracker.ofSnapshot_endsExactly (targets : ReplicaTargets) :
    EndsExactly (ReplicationTracker.ofSnapshot targets) fun reason =>
      .snapshot (.format reason) := by
  have shardsEnd :=
    read_endsExactly (map_selfDelimiting id_selfDelimiting readEntry_selfDelimiting)
  exact shardsEnd.judged fun refused => by rw [ReplicationTracker.ofSnapshot, refused]

theorem ExchangeBook.ofSnapshot_endsExactly (settings : ExchangeSettings) :
    EndsExactly (ExchangeBook.ofSnapshot settings) .format := by
  have contractsEnd :=
    read_endsExactly (map_selfDelimiting peer_selfDelimiting readContract_selfDelimiting)
  have passesOn : ∀ {bytes : Bytes} {reason : ReadFault},
      read (Reader.map Reader.peer readContract) bytes = .error reason →
        ExchangeBook.ofSnapshot settings bytes = .error (id reason) := by
    intro bytes reason refused
    simp only [ExchangeBook.ofSnapshot, refused, id]
  exact contractsEnd.judged passesOn

/-- What does not begin with the current version is a snapshot of no component. -/
theorem read_refuses_other_version {α : Type} (body : Snapshot.Reader α) {bytes : Bytes}
    (other : bytes.take 4 ≠ [1, 0, 0, 0]) :
    ∃ fault, read body bytes = .error fault := by
  cases isRead : read body bytes with
  | error fault => exact ⟨fault, rfl⟩
  | ok decoded => exact absurd (take_of_read isRead) other

/-- Every package and every snapshot of a ledger, a tracker or a book that is accepted, no
matter who wrote it, is refused with any part of its end missing, as ended too early, and with
anything behind it, as having bytes left over. A snapshot that does not begin with the
version 1 is refused whatever follows. -/
theorem accepted_from_end_to_end_or_not_at_all :
    EndsExactly Package.ofBytes id ∧
      (∀ settings salts,
        EndsExactly (Ledger.ofSnapshot settings salts) fun reason =>
          .snapshot (.format reason)) ∧
      (∀ targets,
        EndsExactly (ReplicationTracker.ofSnapshot targets) fun reason =>
          .snapshot (.format reason)) ∧
      (∀ settings, EndsExactly (ExchangeBook.ofSnapshot settings) .format) ∧
      ∀ bytes, bytes.take 4 ≠ [1, 0, 0, 0] →
        (∀ settings salts, ∃ fault,
          Ledger.ofSnapshot settings salts bytes = .error (.snapshot fault)) ∧
        (∀ targets, ∃ fault,
          ReplicationTracker.ofSnapshot targets bytes = .error (.snapshot fault)) ∧
        ∀ settings, ∃ fault, ExchangeBook.ofSnapshot settings bytes = .error fault := by
  refine ⟨Package.ofBytes_endsExactly, Ledger.ofSnapshot_endsExactly,
    ReplicationTracker.ofSnapshot_endsExactly, ExchangeBook.ofSnapshot_endsExactly, ?_⟩
  intro bytes other
  refine ⟨?_, ?_, ?_⟩
  · intro settings salts
    obtain ⟨fault, refused⟩ :=
      read_refuses_other_version (Reader.map Reader.id Ledger.readRecord) other
    exact ⟨fault, by rw [Ledger.ofSnapshot, refused]⟩
  · intro targets
    obtain ⟨fault, refused⟩ :=
      read_refuses_other_version (Reader.map Reader.id ReplicationTracker.readEntry) other
    exact ⟨fault, by rw [ReplicationTracker.ofSnapshot, refused]⟩
  · intro settings
    obtain ⟨fault, refused⟩ :=
      read_refuses_other_version (Reader.map Reader.peer ExchangeBook.readContract) other
    exact ⟨fault, by rw [ExchangeBook.ofSnapshot, refused]⟩

/-- A tracker of one shard, with its only holder given twice. -/
def holderGivenTwice : Bytes :=
  [1, 0, 0, 0] ++
    writeList (fun shard : ShardId =>
        writeId shard ++ writeChoice 2 ++ writeList writePeer [.ofByte 7, .ofByte 7])
      [.repeating 5]

theorem holder_given_twice_is_accepted_only_as_it_is :
    ∃ tracker,
      let decode := ReplicationTracker.ofSnapshot Settings.default.replication
      decode holderGivenTwice = .ok tracker ∧
        tracker.toSnapshot ≠ .ok holderGivenTwice ∧
        (∃ reason, reason.IsEnd ∧
          decode (holderGivenTwice.take 70) = .error (.snapshot (.format reason))) ∧
        decode (holderGivenTwice ++ [0]) = .error (.snapshot (.format .bytesLeftOver)) ∧
        ∃ fault, decode ([2, 0, 0, 0] ++ holderGivenTwice) = .error (.snapshot fault) := by
  obtain ⟨_, _, trackerEnds, _, otherVersion⟩ := accepted_from_end_to_end_or_not_at_all
  let decode := ReplicationTracker.ofSnapshot Settings.default.replication
  have ends := trackerEnds Settings.default.replication
  have isDecoded :
      (decode holderGivenTwice).toOption.map (fun tracker =>
          decide (tracker.toSnapshot.toOption = some holderGivenTwice)) =
        some false := by
    decide +kernel
  cases accepted : decode holderGivenTwice with
  | error fault =>
      rw [accepted] at isDecoded
      cases isDecoded
  | ok tracker =>
      rw [accepted] at isDecoded
      have otherForm : tracker.toSnapshot ≠ .ok holderGivenTwice := by
        intro isWritten
        rw [Except.toOption, Option.map_some, isWritten] at isDecoded
        cases isDecoded
      have parts : holderGivenTwice = holderGivenTwice.take 70 ++ holderGivenTwice.drop 70 :=
        (List.take_append_drop 70 _).symm
      exact ⟨tracker, accepted, otherForm, ends.cutOff accepted _ _ parts (by decide),
        ends.goesOn accepted [0] (by decide),
        (otherVersion ([2, 0, 0, 0] ++ holderGivenTwice) (by decide)).2.1 _⟩

end BlockCustody
