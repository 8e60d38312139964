import BlockCustody.Ledger.Snapshot
import BlockCustody.Proofs.Calendar.TimestampText
import BlockCustody.Proofs.Snapshot.OnlyWritten

/-!
Contract: the ledger comes back from its snapshot.

Owns:
- the records and the ledger that the texts of all instants name;
- that proofs and records are read back as they were written;
- that a ledger whose blocks all have evidence is restored with all its records as they
  were written;
- that what is restored from any bytes is as it would be written.

Does not own: which ledgers have evidence for all their blocks.
-/

namespace BlockCustody

namespace Snapshot

theorem instant_readsBack {instant : Instant} (countable : Countable (writeInstant instant)) :
    Reader.instant.ReadsBack (writeInstant instant) instant.asWritten := by
  have textReads := text_restores (Calendar.Timestamp.render instant) countable
  refine textReads.bind_nil ?_
  rw [Calendar.Timestamp.read_render]
  exact FrontReader.readsBack_pure instant.asWritten

theorem instant_finds : Reader.instant.Finds fun instant => ¬ instant.InsideMinute := by
  refine (FrontReader.finds_any Reader.text).bind fun text _ => ?_
  split
  · next instant isRead =>
      exact FrontReader.finds_pure (Calendar.Timestamp.not_insideMinute_of_read isRead)
  · exact FrontReader.finds_refuse _ _

end Snapshot

namespace BlockRecord

/-- The record with the instants that the texts of its instants name. -/
def asWritten (record : BlockRecord) : BlockRecord :=
  { record with
    calendar := { record.calendar with start := record.calendar.start.asWritten }
    validUntil := record.validUntil.asWritten }

theorem asWritten_eq_self_iff {record : BlockRecord} :
    record.asWritten = record ↔
      ¬ record.calendar.start.InsideMinute ∧ ¬ record.validUntil.InsideMinute := by
  rw [← Instant.asWritten_eq_self_iff, ← Instant.asWritten_eq_self_iff]
  constructor
  · intro same
    have sameCalendar := congrArg BlockRecord.calendar same
    exact ⟨congrArg EvidenceCalendar.start sameCalendar, congrArg BlockRecord.validUntil same⟩
  · rintro ⟨sameStart, sameUntil⟩
    rw [asWritten, sameStart, sameUntil]

theorem asWritten_asWritten (record : BlockRecord) :
    record.asWritten.asWritten = record.asWritten :=
  asWritten_eq_self_iff.mpr
    ⟨Instant.not_insideMinute_asWritten _, Instant.not_insideMinute_asWritten _⟩

theorem calendar_asWritten {record : BlockRecord}
    (notInside : ¬ record.calendar.start.InsideMinute) :
    record.asWritten.calendar = record.calendar := by
  rw [asWritten, Instant.asWritten_eq_self_iff.mpr notInside]

end BlockRecord

namespace Ledger

open Snapshot

theorem readProof_restores : Restores readProof writeProof := by
  intro proof countable
  have saltReads := bytes_restores proof.salt countable.left
  have expectedReads := text_restores proof.expected countable.right
  exact saltReads.bind (expectedReads.bind_nil (FrontReader.readsBack_pure proof))

theorem length_writeProof_pos (proof : HourlyProof) : 0 < (writeProof proof).length := by
  rw [writeProof, writeBytes, writeNumber, List.length_append, List.length_append,
    LittleEndian.length_encode]
  omega

/-- A record is read back as the one that its texts name. -/
theorem readRecord_readsBack {record : BlockRecord} (countable : Countable (writeRecord record)) :
    readRecord.ReadsBack (writeRecord record) record.asWritten := by
  have layout :
      writeRecord record =
        writeInstant record.calendar.start ++
          (writeList writeProof record.calendar.proofs ++
            (writePeer record.holder ++
              (writeList writeId record.shards ++ writeInstant record.validUntil))) := by
    simp only [writeRecord, List.append_assoc]
  rw [layout] at countable ⊢
  have startReads := instant_readsBack countable.left
  have proofsRead :=
    list_restores readProof_restores length_writeProof_pos record.calendar.proofs
      countable.right.left
  have holderReads := peer_restores record.holder countable.right.right.left
  have shardsRead :=
    list_restores id_restores length_writeId_pos record.shards countable.right.right.right.left
  have validUntilReads := instant_readsBack countable.right.right.right.right
  exact startReads.bind (proofsRead.bind (holderReads.bind (shardsRead.bind
    (validUntilReads.bind_nil (FrontReader.readsBack_pure record.asWritten)))))

theorem writeRecord_asWritten (record : BlockRecord) :
    writeRecord record.asWritten = writeRecord record := by
  simp only [writeRecord, BlockRecord.asWritten, writeInstant, Calendar.Timestamp.render_asWritten]

/-- The ledger with the records that their texts name. -/
def asWritten (ledger : Ledger) : Ledger :=
  { ledger with blocks := ledger.blocks.mapValues BlockRecord.asWritten }

theorem record?_asWritten (ledger : Ledger) (id : BlockId) :
    ledger.asWritten.record? id = (ledger.record? id).map BlockRecord.asWritten :=
  KeyedMap.find?_mapValues ledger.blocks BlockRecord.asWritten id

theorem toSnapshot_asWritten (ledger : Ledger) :
    ledger.asWritten.toSnapshot = ledger.toSnapshot := by
  simp only [toSnapshot, asWritten, writeMap, writeList, KeyedMap.mapValues, List.length_map,
    List.flatMap_map, writeRecord_asWritten]

/-- The records that were written are read back as their texts name them. -/
theorem read_of_toSnapshot {ledger : Ledger} {bytes : Bytes}
    (isWritten : ledger.toSnapshot = .ok bytes) :
    read (Reader.map Reader.id readRecord) bytes = .ok ledger.asWritten.blocks := by
  rw [← toSnapshot_asWritten] at isWritten
  refine read_of_readsBack (fun countable => ?_) isWritten
  refine map_readsBack (fun _ => writeRecord) ledger.asWritten.blocks id_restores
    length_writeId_pos ?_ countable
  rintro ⟨id, record⟩ member entryCountable
  obtain ⟨⟨_, earlier⟩, _, isEntry⟩ := List.mem_map.mp member
  cases isEntry
  have recordReads := readRecord_readsBack entryCountable
  rwa [BlockRecord.asWritten_asWritten] at recordReads

def HasEvidence (ledger : Ledger) : Prop :=
  ∀ id record, ledger.record? id = some record → record.calendar.proofs ≠ []

theorem withoutEvidence?_eq_none_iff {ledger : Ledger} :
    withoutEvidence? ledger.blocks = none ↔ ledger.HasEvidence := by
  simp only [withoutEvidence?, Option.map_eq_none_iff, List.find?_eq_none, HasEvidence, record?,
    KeyedMap.find?_eq_some_iff, List.isEmpty_iff]
  constructor
  · intro entriesHave id record member
    exact entriesHave (id, record) member
  · intro recordsHave entry member
    exact recordsHave entry.1 entry.2 member

theorem HasEvidence.asWritten {ledger : Ledger} (hasEvidence : ledger.HasEvidence) :
    ledger.asWritten.HasEvidence := by
  intro id record recorded
  rw [record?_asWritten, Option.map_eq_some_iff] at recorded
  obtain ⟨earlier, isEarlier, rfl⟩ := recorded
  exact hasEvidence id earlier isEarlier

/-- What a ledger with evidence for every block writes is read back with all records as
they were written, under whatever settings and salts go with them. -/
theorem ofSnapshot_of_toSnapshot
    {ledger : Ledger}
    (hasEvidence : ledger.HasEvidence)
    {bytes : Bytes}
    (isWritten : ledger.toSnapshot = .ok bytes)
    (settings : ProofSettings)
    (salts : SaltStream) :
    ofSnapshot settings salts bytes = .ok { ledger.asWritten with settings, salts } := by
  rw [ofSnapshot, read_of_toSnapshot isWritten]
  simp only [withoutEvidence?_eq_none_iff.mpr hasEvidence.asWritten]

/-! ## What is restored from any bytes -/

theorem readRecord_finds : readRecord.Finds fun record => record.asWritten = record := by
  refine instant_finds.bind fun start startHasText => ?_
  refine (FrontReader.finds_any (Reader.list readProof)).bind fun proofs _ => ?_
  refine (FrontReader.finds_any Reader.peer).bind fun holder _ => ?_
  refine (FrontReader.finds_any (Reader.list Reader.id)).bind fun shards _ => ?_
  refine instant_finds.bind fun validUntil untilHasText => ?_
  exact FrontReader.finds_pure (BlockRecord.asWritten_eq_self_iff.mpr ⟨startHasText, untilHasText⟩)

/-- A restored ledger has no instants but such as have a text of their own. -/
theorem asWritten_of_ofSnapshot
    {settings : ProofSettings}
    {salts : SaltStream}
    {bytes : Bytes}
    {ledger : Ledger}
    (accepted : ofSnapshot settings salts bytes = .ok ledger) :
    ledger.asWritten = ledger := by
  rw [ofSnapshot] at accepted
  split at accepted
  · cases accepted
  · next blocks isRead =>
      split at accepted
      · cases accepted
      · cases accepted
        have areWritten := read_finds (map_finds readRecord_finds) isRead
        have sameBlocks : blocks.mapValues BlockRecord.asWritten = blocks := by
          apply KeyedMap.ext
          refine (List.map_congr_left fun entry member => ?_).trans (List.map_id blocks.entries)
          rw [areWritten entry member]
          rfl
        rw [asWritten, sameBlocks]

end Ledger

end BlockCustody
