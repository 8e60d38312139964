import BlockCustody.Ledger.Audit
import BlockCustody.Proofs.Ledger.Contents

/-!
Contract: the snapshot of a ledger stands for its records, no more and no less.

Owns:
- ledgers as they come about, restored ones included, and that all their blocks have
  evidence;
- that ledgers answer alike, whatever is asked, if their records agree but for ends of
  validity;
- that every such ledger comes back from its snapshot, but for leap seconds inside a
  minute, and that two ledgers share a snapshot exactly if they have the same records as
  these are written.

Does not own: the bytes of a snapshot.
-/

namespace BlockCustody.Ledger

open Snapshot

/-! ## How ledgers come about -/

/-- A ledger starts empty or is restored from bytes that are accepted, whoever wrote
them; then things happen to it. -/
inductive Arises : Ledger → Prop where
  | empty (settings : ProofSettings) (salts : SaltStream) : Arises (empty settings salts)
  | restored {settings : ProofSettings} {salts : SaltStream} {bytes : Bytes} {ledger : Ledger}
      (accepted : ofSnapshot settings salts bytes = .ok ledger) : Arises ledger
  | after {ledger : Ledger} (arises : Arises ledger) (event : LedgerEvent) :
      Arises (ledger.after event)

theorem Arises.run {ledger : Ledger} (arises : ledger.Arises) (history : List LedgerEvent) :
    (ledger.run history).Arises := by
  induction history generalizing ledger with
  | nil => exact arises
  | cons event later inductionHypothesis => exact inductionHypothesis (arises.after event)

theorem hasEvidence_of_ofSnapshot
    {settings : ProofSettings}
    {salts : SaltStream}
    {bytes : Bytes}
    {ledger : Ledger}
    (accepted : ofSnapshot settings salts bytes = .ok ledger) :
    ledger.HasEvidence := by
  unfold ofSnapshot at accepted
  split at accepted
  · cases accepted
  · split at accepted
    · cases accepted
    · next noneWithout =>
        cases accepted
        exact withoutEvidence?_eq_none_iff.mp noneWithout

theorem Arises.hasEvidence {ledger : Ledger} (arises : ledger.Arises) : ledger.HasEvidence := by
  induction arises with
  | empty settings salts => exact (empty_madeFrom settings salts).hasEvidence
  | restored accepted => exact hasEvidence_of_ofSnapshot accepted
  | after _ event inductionHypothesis => exact inductionHypothesis.after event

/-- No instant of a record is a leap second inside a minute. -/
def LeapsEndMinutes (ledger : Ledger) : Prop :=
  ∀ id record, ledger.record? id = some record →
    ¬ record.calendar.start.InsideMinute ∧ ¬ record.validUntil.InsideMinute

theorem asWritten_eq_self_of_leapsEndMinutes {ledger : Ledger} (leaps : ledger.LeapsEndMinutes)
    (id : BlockId) : (ledger.record? id).map BlockRecord.asWritten = ledger.record? id := by
  cases recorded : ledger.record? id with
  | none => rfl
  | some record =>
      rw [Option.map_some, BlockRecord.asWritten_eq_self_iff.mpr (leaps id record recorded)]

/-- What is restored from any bytes has been written before. -/
theorem leapsEndMinutes_of_ofSnapshot
    {settings : ProofSettings}
    {salts : SaltStream}
    {bytes : Bytes}
    {ledger : Ledger}
    (accepted : ofSnapshot settings salts bytes = .ok ledger) :
    ledger.LeapsEndMinutes := by
  intro id record recorded
  have isWritten := record?_asWritten ledger id
  rw [asWritten_of_ofSnapshot accepted, recorded, Option.map_some, Option.some.injEq] at isWritten
  exact BlockRecord.asWritten_eq_self_iff.mp isWritten.symm

/-- A calendar starts at the top of an hour, or at an instant that was read. -/
theorem Arises.start_not_insideMinute {ledger : Ledger} (arises : ledger.Arises) :
    ∀ id record, ledger.record? id = some record → ¬ record.calendar.start.InsideMinute := by
  induction arises with
  | empty settings salts =>
      intro id record recorded
      cases recorded
  | restored accepted =>
      intro id record recorded
      exact (leapsEndMinutes_of_ofSnapshot accepted id record recorded).1
  | after arises event inductionHypothesis =>
      intro id record recorded
      rcases record?_after_cases arises.hasEvidence recorded with
        ⟨earlier, before, keeps, _⟩ | ⟨now, payload, shards, holder, validUntil, _, _, rfl⟩
      · rw [keeps.calendar (inductionHypothesis id earlier before)]
        exact inductionHypothesis id earlier before
      · exact (EvidenceCalendar.generate_madeFrom payload now validUntil _ _ _).not_insideMinute

/-! ## Equal answers -/

/-- What the answers about a block depend on: its record but for the end of validity. -/
def placement (record : BlockRecord) : EvidenceCalendar × PeerId × List ShardId :=
  (record.calendar, record.holder, record.shards)

/-- Whatever is asked of the one ledger but ends of validity, the other gives the same
answer. -/
structure AnswersLike (left right : Ledger) : Prop where
  placement : ∀ id, (left.record? id).map placement = (right.record? id).map placement
  contains : ∀ id, left.contains id = right.contains id
  size : left.size = right.size
  blockIds : left.blockIds = right.blockIds
  heldBy : ∀ peer, left.heldBy peer = right.heldBy peer
  challengeSalt : ∀ id instant, left.challengeSalt id instant = right.challengeSalt id instant
  confirm : ∀ id instant candidate,
    left.confirm id instant candidate = right.confirm id instant candidate
  challenge : ∀ id instant, left.challenge id instant = right.challenge id instant
  verify : ∀ message instant, left.verify message instant = right.verify message instant
  auditRequest : ∀ id instant, left.auditRequest id instant = right.auditRequest id instant
  audit : ∀ send id instant, left.audit send id instant = right.audit send id instant

section SamePlacement

variable {left right : Ledger}
variable (same : ∀ id, (left.record? id).map placement = (right.record? id).map placement)

include same

theorem blocks_placement : left.blocks.mapValues placement = right.blocks.mapValues placement := by
  apply KeyedMap.eq_of_find?_eq
  intro id
  rw [KeyedMap.find?_mapValues, KeyedMap.find?_mapValues]
  exact same id

theorem records_of_placement (id : BlockId) :
    left.record? id = none ∧ right.record? id = none ∨
      ∃ record other, left.record? id = some record ∧ right.record? id = some other ∧
        record.calendar = other.calendar ∧ record.holder = other.holder := by
  have sameHere := same id
  cases isLeft : left.record? id with
  | none =>
      rw [isLeft, Option.map_none, eq_comm, Option.map_eq_none_iff] at sameHere
      exact Or.inl ⟨rfl, sameHere⟩
  | some record =>
      rw [isLeft, Option.map_some, eq_comm, Option.map_eq_some_iff] at sameHere
      obtain ⟨other, isRight, samePlacement⟩ := sameHere
      simp only [placement, Prod.mk.injEq] at samePlacement
      exact Or.inr ⟨record, other, rfl, isRight, samePlacement.1.symm, samePlacement.2.1.symm⟩

theorem proofAt_of_placement (id : BlockId) (instant : Instant) :
    left.proofAt id instant = right.proofAt id instant := by
  rcases records_of_placement same id with
    ⟨isLeft, isRight⟩ | ⟨record, other, isLeft, isRight, sameCalendar, _⟩
  · simp only [proofAt, isLeft, isRight]
  · simp only [proofAt, isLeft, isRight, sameCalendar]

theorem auditRequest_of_placement (id : BlockId) (instant : Instant) :
    left.auditRequest id instant = right.auditRequest id instant := by
  simp only [auditRequest, challenge, challengeSalt, proofAt_of_placement same id instant]
  rcases records_of_placement same id with
    ⟨isLeft, isRight⟩ | ⟨record, other, isLeft, isRight, _, sameHolder⟩
  · simp only [isLeft, isRight]
  · simp only [isLeft, isRight, sameHolder]

/-- No question reads the settings or the salts. -/
theorem answersLike_of_placement : left.AnswersLike right := by
  have sameProof := proofAt_of_placement same
  have sameRequest := auditRequest_of_placement same
  have sameBlocks := blocks_placement same
  have sameIds : left.blockIds = right.blockIds := by
    rw [blockIds, ← KeyedMap.keys_mapValues left.blocks placement, sameBlocks,
      KeyedMap.keys_mapValues, blockIds]
  refine
    { placement := same
      contains := fun id => ?_
      size := ?_
      blockIds := sameIds
      heldBy := fun peer => ?_
      challengeSalt := fun id instant => by simp only [challengeSalt, sameProof]
      confirm := fun id instant candidate => by simp only [confirm, sameProof]
      challenge := fun id instant => by simp only [challenge, challengeSalt, sameProof]
      verify := fun message instant => by simp only [verify, confirm, sameProof]
      auditRequest := sameRequest
      audit := fun send id instant => ?_ }
  · have sameHere := congrArg Option.isSome (same id)
    rwa [Option.isSome_map, Option.isSome_map] at sameHere
  · have sameLength := congrArg List.length sameIds
    rwa [blockIds, blockIds, KeyedMap.length_keys, KeyedMap.length_keys] at sameLength
  · have isHeld := KeyedMap.keys_filter_mapValues left.blocks placement
      fun _ present => decide (present.2.1 = peer)
    rw [sameBlocks, KeyedMap.keys_filter_mapValues] at isHeld
    exact isHeld.symm
  · have sameVerdict :
        ∀ answer, left.auditVerdict id instant answer = right.auditVerdict id instant answer := by
      intro answer
      unfold auditVerdict
      simp only [verify, confirm, sameProof]
    simp only [audit, sameRequest, sameVerdict]

end SamePlacement

/-! ## Snapshots -/

/-- Only ledgers that are too large have no snapshot. -/
theorem exists_toSnapshot_iff {ledger : Ledger} :
    (∃ bytes, ledger.toSnapshot = .ok bytes) ↔
      (LittleEndian.encode 4 currentVersion ++
        writeMap writeId writeRecord ledger.blocks).length ≤ writeLimit := by
  constructor
  · rintro ⟨bytes, isWritten⟩
    exact (limited_eq_ok_iff.mp isWritten).2
  · intro fits
    exact ⟨_, limited_eq_ok_iff.mpr ⟨rfl, fits⟩⟩

theorem toSnapshot_of_record?
    {left right : Ledger}
    (same : ∀ id, left.record? id = right.record? id) :
    left.toSnapshot = right.toSnapshot := by
  rw [toSnapshot, toSnapshot, KeyedMap.eq_of_find?_eq same]

/-- One snapshot is read back as one map, so only one map can have been written to it. -/
theorem toSnapshot_eq_ok_iff
    {left right : Ledger}
    {bytes : Bytes}
    (leftWritten : left.toSnapshot = .ok bytes) :
    right.toSnapshot = .ok bytes ↔
      ∀ id, (left.record? id).map BlockRecord.asWritten =
        (right.record? id).map BlockRecord.asWritten := by
  simp only [← record?_asWritten]
  constructor
  · intro rightWritten id
    have leftRead := read_of_toSnapshot leftWritten
    rw [read_of_toSnapshot rightWritten, Except.ok.injEq] at leftRead
    rw [record?, record?, leftRead]
  · intro same
    rw [← toSnapshot_asWritten, ← toSnapshot_of_record? same, toSnapshot_asWritten, leftWritten]

/-- A block that is valid until the end of its leap second, and a block with a shard. -/
def twoAdditions (early late : Instant) : List LedgerEvent :=
  [.added early [1] [] (PeerId.ofByte 1) early,
    .added late [2] [ContentId.ofContent [1]] (PeerId.ofByte 2) late]

/-- A block that is valid until a leap second inside a minute comes back valid until the
second after it. The restored ledger has the same snapshot, though not the same records. -/
theorem restored_of_insideMinute
    {ledger : Ledger}
    (hasEvidence : ledger.HasEvidence)
    {bytes : Bytes}
    (isWritten : ledger.toSnapshot = .ok bytes)
    {id : BlockId}
    {record : BlockRecord}
    (recorded : ledger.record? id = some record)
    (inside : record.validUntil.InsideMinute)
    (settings : ProofSettings)
    (salts : SaltStream) :
    ∃ restored found,
      ofSnapshot settings salts bytes = .ok restored ∧
        restored.toSnapshot = .ok bytes ∧
        restored.record? id = some found ∧ record ≠ found ∧
        found.validUntil.seconds = record.validUntil.seconds + 1 ∧
        found.validUntil.nanos = record.validUntil.nanos - Calendar.nanosPerSecond := by
  have isRestored := ofSnapshot_of_toSnapshot hasEvidence isWritten settings salts
  have found := record?_asWritten ledger id
  rw [recorded, Option.map_some] at found
  refine ⟨_, record.asWritten, isRestored, ?_, found, ?_, ?_⟩
  · exact (toSnapshot_of_record? fun _ => rfl).trans ((toSnapshot_asWritten ledger).trans isWritten)
  · intro same
    exact (BlockRecord.asWritten_eq_self_iff.mp same.symm).2 inside
  · exact Instant.asWritten_of_insideMinute inside

/-- A leap second after half a minute. -/
def leapSecondAtHalfMinute : Instant :=
  { seconds := 30, nanos := 1500000000, inRange := by decide, nanosFit := by decide }

end BlockCustody.Ledger
