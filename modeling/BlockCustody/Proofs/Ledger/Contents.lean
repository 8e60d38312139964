import BlockCustody.Proofs.Collections.Histories
import BlockCustody.Proofs.Evidence.ClockHours
import BlockCustody.Proofs.Ledger.History
import BlockCustody.Proofs.Ledger.Questions

/-!
Contract: which blocks a ledger has after a history, and with which records.

Owns:
- what it is for a block to have been added, by a call that went through, and not
  dropped since;
- that such blocks, and no others, are in the ledger, with the record of the first
  such call since they were last dropped;
- what removals and further calls come to after any history.

Does not own: what is in a calendar.
-/

namespace BlockCustody

namespace LedgerEvent

/-- The event is a call that adds bytes with this id to the ledger, and goes through. -/
def Adds : LedgerEvent → Ledger → BlockId → Prop
  | .added now payload shards holder validUntil, ledger, id =>
      ∃ later, ledger.register now payload shards holder validUntil = .ok (id, later)
  | .removed _, _, _ => False
  | .keptOnly _, _, _ => False
  | .restarted _ _, _, _ => False

/-- The event takes the block out if it is there. -/
def Drops : LedgerEvent → BlockId → Prop
  | .added _ _ _ _ _, _ => False
  | .removed gone, id => gone = id
  | .keptOnly live, id => id ∉ live
  | .restarted _ _, _ => False

variable {event : LedgerEvent} {ledger : Ledger} {id : BlockId}

theorem Adds.exists_added (adds : event.Adds ledger id) :
    ∃ now payload shards holder validUntil,
      event = .added now payload shards holder validUntil := by
  cases event with
  | added now payload shards holder validUntil => exact ⟨_, _, _, _, _, rfl⟩
  | removed gone => exact adds.elim
  | keptOnly live => exact adds.elim
  | restarted settings salts => exact adds.elim

/-- A call goes through for a block that is there, and for one with a last hour. -/
theorem adds_added_iff {now : Instant} {payload : Bytes} {shards : List ShardId}
    {holder : PeerId} {validUntil : Instant} :
    (added now payload shards holder validUntil).Adds ledger id ↔
      ContentId.ofContent payload = id ∧
        (ledger.contains id = true ∨
          (ledger.addedRecord now payload shards holder validUntil).calendar.lastHour? ≠ none) := by
  have isId := Ledger.fst_add ledger now payload shards holder validUntil
  rw [Adds, Ledger.register_eq]
  split
  · next fails =>
      constructor
      · rintro ⟨later, impossible⟩
        cases impossible
      · rintro ⟨rfl, present | hasLastHour⟩
        · exact absurd (fails.1.symm.trans present) Bool.false_ne_true
        · exact absurd fails.2 hasLastHour
  · next goesThrough =>
      constructor
      · rintro ⟨later, isAdded⟩
        obtain rfl : ContentId.ofContent payload = id := by
          rw [← isId, Except.ok.inj isAdded]
        refine ⟨rfl, ?_⟩
        rwa [not_and_or, Bool.not_eq_false] at goesThrough
      · rintro ⟨rfl, _⟩
        exact ⟨_, congrArg Except.ok (Prod.ext isId rfl)⟩

theorem Adds.not_drops (adds : event.Adds ledger id) : ¬ event.Drops id := by
  obtain ⟨now, payload, shards, holder, validUntil, rfl⟩ := adds.exists_added
  exact not_false

end LedgerEvent

/-- The block was added at some point, and nothing has dropped it since. -/
def Standing (first : Ledger) (history : List LedgerEvent) (id : BlockId) : Prop :=
  ∃ before event later, history = before ++ event :: later ∧ event.Adds (first.run before) id ∧
    ∀ since ∈ later, ¬ since.Drops id

variable {first : Ledger}

theorem not_standing_nil (id : BlockId) : ¬ Standing first [] id :=
  not_lasts_nil

theorem standing_append_singleton {history : List LedgerEvent} {event : LedgerEvent}
    {id : BlockId} :
    Standing first (history ++ [event]) id ↔
      event.Adds (first.run history) id ∨ Standing first history id ∧ ¬ event.Drops id :=
  @lasts_append_singleton LedgerEvent (fun before addition => addition.Adds (first.run before) id)
    (fun since => since.Drops id) _ _

/-- Among the additions since a block was last dropped there is a first one. -/
theorem Standing.exists_first {history : List LedgerEvent} {id : BlockId}
    (standing : Standing first history id) :
    ∃ before event later, history = before ++ event :: later ∧ event.Adds (first.run before) id ∧
      (∀ since ∈ later, ¬ since.Drops id) ∧ ¬ Standing first before id := by
  induction history using List.reverseRecOn with
  | nil => exact absurd standing (not_standing_nil id)
  | append_singleton history event inductionHypothesis =>
      by_cases stoodBefore : Standing first history id
      · have notDropped : ¬ event.Drops id := by
          rcases standing_append_singleton.mp standing with adds | ⟨_, notDropped⟩
          · exact adds.not_drops
          · exact notDropped
        obtain ⟨before, addition, later, rfl, adds, kept, isFirst⟩ :=
          inductionHypothesis stoodBefore
        refine ⟨before, addition, later ++ [event], by simp, adds, ?_, isFirst⟩
        intro since member
        rcases List.mem_append.mp member with earlier | last
        · exact kept since earlier
        · rwa [List.mem_singleton.mp last]
      · rcases standing_append_singleton.mp standing with adds | ⟨stood, _⟩
        · exact ⟨history, event, [], rfl, adds, by simp, stoodBefore⟩
        · exact absurd stood stoodBefore

namespace Ledger

open EvidenceCalendar (RunsOutOfTime)

variable {ledger : Ledger} {id : BlockId} {record : BlockRecord}

theorem contains_eq_true_iff :
    ledger.contains id = true ↔ ∃ record, ledger.record? id = some record :=
  KeyedMap.contains_eq_true_iff

theorem contains_eq_false_iff : ledger.contains id = false ↔ ledger.record? id = none :=
  KeyedMap.contains_eq_false_iff

theorem mem_blockIds_iff : id ∈ ledger.blockIds ↔ ledger.contains id = true :=
  KeyedMap.mem_keys_iff

theorem mem_heldBy_iff {peer : PeerId} :
    id ∈ ledger.heldBy peer ↔ ∃ record, ledger.record? id = some record ∧ record.holder = peer := by
  simp only [heldBy, KeyedMap.mem_keys_iff, KeyedMap.contains_eq_true_iff,
    KeyedMap.find?_filter_eq_some_iff, decide_eq_true_eq, record?]

/-- Every block of the ledger has one holder. -/
theorem existsUnique_heldBy (member : id ∈ ledger.blockIds) :
    ∃! peer, id ∈ ledger.heldBy peer := by
  obtain ⟨record, recorded⟩ := contains_eq_true_iff.mp (mem_blockIds_iff.mp member)
  refine ⟨record.holder, mem_heldBy_iff.mpr ⟨record, recorded, rfl⟩, ?_⟩
  intro peer held
  obtain ⟨other, otherRecorded, isHolder⟩ := mem_heldBy_iff.mp held
  rw [recorded, Option.some.injEq] at otherRecorded
  rw [← isHolder, otherRecorded]

/-- As many blocks go as are in the ledger and not to be kept. -/
theorem fst_keepOnly (ledger : Ledger) (live : List BlockId) :
    (ledger.keepOnly live).1 = (ledger.blockIds.filter fun id => decide (id ∉ live)).length := by
  have dropped := KeyedMap.size_sub_size_filter ledger.blocks live.contains
  have sameTest : (fun id => !live.contains id) = fun id => decide (id ∉ live) := by
    funext id
    simp
  rw [sameTest] at dropped
  exact dropped

theorem record?_keepOnly (ledger : Ledger) (live : List BlockId) (id : BlockId) :
    (ledger.keepOnly live).2.record? id = if id ∈ live then ledger.record? id else none := by
  have found := KeyedMap.find?_filter_keys ledger.blocks live.contains id
  by_cases isLive : id ∈ live
  · rw [if_pos (List.contains_iff_mem.mpr isLive)] at found
    rw [if_pos isLive]
    exact found
  · rw [if_neg fun isContained => isLive (List.contains_iff_mem.mp isContained)] at found
    rw [if_neg isLive]
    exact found

theorem record?_remove (ledger : Ledger) (gone id : BlockId) :
    (ledger.remove gone).2.record? id = if id = gone then none else ledger.record? id :=
  KeyedMap.find?_erase ledger.blocks gone id

/-! ## One event -/

theorem record?_after_of_dropped {event : LedgerEvent} (dropped : event.Drops id) :
    (ledger.after event).record? id = none := by
  cases event with
  | added now payload shards holder validUntil => exact dropped.elim
  | removed gone =>
      have isGone : id = gone := Eq.symm dropped
      rw [after, record?_remove, if_pos isGone]
  | keptOnly live =>
      have notLive : id ∉ live := dropped
      rw [after, record?_keepOnly, if_neg notLive]
  | restarted settings salts => exact dropped.elim

theorem record?_after_of_adds {event : LedgerEvent} (adds : event.Adds ledger id) :
    ∃ record, (ledger.after event).record? id = some record := by
  obtain ⟨now, payload, shards, holder, validUntil, rfl⟩ := adds.exists_added
  obtain ⟨rfl, present | hasLastHour⟩ := LedgerEvent.adds_added_iff.mp adds
  · rw [after, afterAddition_of_contains _ _ _ _ _ _ present]
    exact contains_eq_true_iff.mp present
  · rw [after, record?_afterAddition]
    cases present : ledger.contains (ContentId.ofContent payload) with
    | true => simpa using contains_eq_true_iff.mp present
    | false => simp [hasLastHour]

/-- A record stays as it is until its block is dropped, but for what a restart writes. -/
theorem record?_after_of_recorded
    (hasEvidence : ledger.HasEvidence)
    (recorded : ledger.record? id = some record)
    {event : LedgerEvent}
    (kept : ¬ event.Drops id) :
    ∃ later, (ledger.after event).record? id = some later ∧ record.Keeps later ∧
      (¬ event.Restarts → later = record) := by
  have unchanged : (ledger.after event).record? id = ledger.record? id →
      ∃ later, (ledger.after event).record? id = some later ∧ record.Keeps later ∧
        (¬ event.Restarts → later = record) :=
    fun same => ⟨record, same.trans recorded, .refl record, fun _ => rfl⟩
  cases event with
  | added now payload shards holder validUntil =>
      apply unchanged
      have present := contains_eq_true_iff.mpr ⟨record, recorded⟩
      have notNew : ¬ (id = ContentId.ofContent payload ∧ ledger.contains id = false) :=
        fun new => Bool.false_ne_true (new.2.symm.trans present)
      rw [after, record?_afterAddition, if_neg fun entered => notNew entered.1]
  | removed gone =>
      apply unchanged
      have isOther : id ≠ gone := fun same => kept same.symm
      rw [after, record?_remove, if_neg isOther]
  | keptOnly live =>
      apply unchanged
      have isLive : id ∈ live := Decidable.not_not.mp kept
      rw [after, record?_keepOnly, if_pos isLive]
  | restarted settings salts =>
      rcases record?_restart hasEvidence settings salts id with isSame | isWritten
      · exact unchanged isSame
      · rw [recorded, Option.map_some] at isWritten
        exact ⟨_, isWritten, Or.inr rfl, fun goesOn => absurd trivial goesOn⟩

theorem contains_of_adds {event : LedgerEvent} (adds : event.Adds ledger id) :
    (ledger.after event).contains id = true :=
  contains_eq_true_iff.mpr (record?_after_of_adds adds)

/-- After an event a block is there if the event added it, or if it was there and the
event did not drop it. -/
theorem contains_after (hasEvidence : ledger.HasEvidence) {event : LedgerEvent} :
    (ledger.after event).contains id = true ↔
      event.Adds ledger id ∨ ledger.contains id = true ∧ ¬ event.Drops id := by
  constructor
  · intro present
    obtain ⟨record, recorded⟩ := contains_eq_true_iff.mp present
    by_cases before : ledger.contains id = true
    · refine Or.inr ⟨before, fun dropped => ?_⟩
      rw [record?_after_of_dropped dropped] at recorded
      cases recorded
    · rcases record?_after_cases hasEvidence recorded with
        ⟨earlier, isEarlier, _⟩ | ⟨now, payload, shards, holder, validUntil, rfl, rfl, _⟩
      · exact absurd (contains_eq_true_iff.mpr ⟨earlier, isEarlier⟩) before
      · refine Or.inl (LedgerEvent.adds_added_iff.mpr ⟨rfl, Or.inr fun noLastHour => ?_⟩)
        rw [after, record?_afterAddition, if_neg fun entered => entered.2 noLastHour] at recorded
        exact before (contains_eq_true_iff.mpr ⟨record, recorded⟩)
  · rintro (adds | ⟨present, kept⟩)
    · exact contains_of_adds adds
    · obtain ⟨record, recorded⟩ := contains_eq_true_iff.mp present
      obtain ⟨later, isLater, _⟩ := record?_after_of_recorded hasEvidence recorded kept
      exact contains_eq_true_iff.mpr ⟨later, isLater⟩

/-! ## Histories -/

theorem run_cons (ledger : Ledger) (event : LedgerEvent) (later : List LedgerEvent) :
    ledger.run (event :: later) = (ledger.after event).run later :=
  rfl

theorem run_append (ledger : Ledger) (earlier later : List LedgerEvent) :
    ledger.run (earlier ++ later) = (ledger.run earlier).run later :=
  List.foldl_append

theorem record?_run_of_recorded
    (hasEvidence : ledger.HasEvidence)
    (recorded : ledger.record? id = some record)
    {history : List LedgerEvent}
    (kept : ∀ since ∈ history, ¬ since.Drops id) :
    ∃ later, (ledger.run history).record? id = some later ∧ record.Keeps later ∧
      ((∀ since ∈ history, ¬ since.Restarts) → later = record) := by
  induction history generalizing ledger record with
  | nil => exact ⟨record, recorded, .refl record, fun _ => rfl⟩
  | cons event others inductionHypothesis =>
      obtain ⟨next, isNext, keeps, nextSame⟩ :=
        record?_after_of_recorded hasEvidence recorded (kept event List.mem_cons_self)
      obtain ⟨later, isLater, keepsOn, laterSame⟩ :=
        inductionHypothesis (hasEvidence.after event) isNext
          fun since member => kept since (List.mem_cons_of_mem event member)
      refine ⟨later, isLater, keeps.trans keepsOn, fun goesOn => ?_⟩
      rw [List.forall_mem_cons] at goesOn
      rw [laterSame goesOn.2, nextSame goesOn.1]

section FromEmpty

variable (settings : ProofSettings) (salts : SaltStream) (history : List LedgerEvent)

theorem contains_run_iff_standing (id : BlockId) :
    ((empty settings salts).run history).contains id = true ↔
      Standing (empty settings salts) history id := by
  induction history using List.reverseRecOn with
  | nil => exact iff_of_false Bool.false_ne_true (not_standing_nil id)
  | append_singleton history event inductionHypothesis =>
      have made := run_empty_madeFrom settings salts history
      rw [run_append, standing_append_singleton, ← inductionHypothesis]
      exact contains_after made.hasEvidence

/-- The record is the one that the first addition since the block was last dropped wrote,
with the settings and the salts that the ledger had come to. -/
def RecordedFirst (first : Ledger) (history : List LedgerEvent) (id : BlockId)
    (record : BlockRecord) : Prop :=
  ∃ before now payload shards holder validUntil later,
    history = before ++ .added now payload shards holder validUntil :: later ∧
      (LedgerEvent.added now payload shards holder validUntil).Adds (first.run before) id ∧
      (∀ since ∈ later, ¬ since.Drops id) ∧
      ¬ Standing first before id ∧
      record = (first.run before).addedRecord now payload shards holder validUntil

variable {settings salts history}

theorem record?_run_of_recordedFirst
    (recordedFirst : RecordedFirst (empty settings salts) history id record) :
    ∃ later, ((empty settings salts).run history).record? id = some later ∧ record.Keeps later ∧
      ((∀ event ∈ history, ¬ event.Restarts) → later = record) := by
  obtain ⟨before, now, payload, shards, holder, validUntil, later, rfl, adds, kept, isFirst, rfl⟩ :=
    recordedFirst
  have absent : ((empty settings salts).run before).contains id = false :=
    Bool.eq_false_iff.mpr fun present =>
      isFirst ((contains_run_iff_standing settings salts before id).mp present)
  obtain ⟨rfl, goesThrough⟩ := LedgerEvent.adds_added_iff.mp adds
  have hasLastHour := goesThrough.resolve_left (Bool.eq_false_iff.mp absent)
  have hasEvidence := (run_empty_madeFrom settings salts before).hasEvidence
  have written :=
    record?_afterAddition ((empty settings salts).run before) now payload shards holder validUntil
      (ContentId.ofContent payload)
  rw [if_pos ⟨⟨rfl, absent⟩, hasLastHour⟩] at written
  obtain ⟨last, isLast, keeps, same⟩ :=
    record?_run_of_recorded
      (hasEvidence.after (.added now payload shards holder validUntil)) written kept
  rw [run_append]
  refine ⟨last, isLast, keeps, fun goesOn => same fun since member => ?_⟩
  exact goesOn since (by simp [member])

/-- Each record was written by a first addition, and has been kept since. -/
theorem exists_recordedFirst
    {later : BlockRecord}
    (recorded : ((empty settings salts).run history).record? id = some later) :
    ∃ record, RecordedFirst (empty settings salts) history id record ∧ record.Keeps later ∧
      ((∀ event ∈ history, ¬ event.Restarts) → later = record) := by
  have present := contains_eq_true_iff.mpr ⟨later, recorded⟩
  have standing := (contains_run_iff_standing settings salts history id).mp present
  obtain ⟨before, event, others, isHistory, adds, kept, isFirst⟩ := standing.exists_first
  obtain ⟨now, payload, shards, holder, validUntil, rfl⟩ := adds.exists_added
  have recordedFirst : RecordedFirst (empty settings salts) history id _ :=
    ⟨before, now, payload, shards, holder, validUntil, others, isHistory, adds, kept, isFirst, rfl⟩
  obtain ⟨last, isLast, keeps⟩ := record?_run_of_recordedFirst recordedFirst
  rw [isLast, Option.some.injEq] at recorded
  subst recorded
  exact ⟨_, recordedFirst, keeps⟩

/-- A call for a block that is not there fails only if its calendar runs out of time. -/
theorem exists_register_eq_ok_iff
    {now : Instant}
    {payload : Bytes}
    {validUntil : Instant}
    (absent : ledger.contains (ContentId.ofContent payload) = false)
    (shards : List ShardId)
    (holder : PeerId) :
    (∃ later, ledger.register now payload shards holder validUntil =
        .ok (ContentId.ofContent payload, later)) ↔
      ¬ RunsOutOfTime now validUntil ledger.settings.maxWindowHours.toNat := by
  have noLastHour :=
    EvidenceCalendar.lastHour?_generate_eq_none_iff payload now validUntil
      ledger.settings.maxWindowHours.toNat ledger.settings.saltLength.toNat ledger.salts
  have goesThrough :=
    @LedgerEvent.adds_added_iff ledger (ContentId.ofContent payload) now payload shards holder
      validUntil
  simp only [absent, Bool.false_eq_true, false_or, true_and] at goesThrough
  exact goesThrough.trans (not_congr noLastHour)

/-- A ledger after any history. It has the blocks that were added, by calls that went
through, and not dropped since, each under the record that the first such call of that time
wrote; only a restart can change it, to what is written for it. A call for a block that is
there goes through and changes nothing; any other goes through unless its calendar runs out
of time, and one that fails leaves the records as they are. Removing says whether the block
was there; keeping only some says how many others went and leaves the kept ones as they
were. Ids, number and holders tell of the same blocks: each has one holder. About any other
block, all that is asked is refused without an hour. -/
theorem ledger_has_what_its_history_left_standing
    (settings : ProofSettings)
    (salts : SaltStream)
    (history : List LedgerEvent) :
    let first := empty settings salts
    let ledger := first.run history
    (∀ id, ledger.contains id = true ↔ Standing first history id) ∧
      ((∀ event ∈ history, ¬ event.Restarts) → ∀ id record,
        ledger.record? id = some record ↔ RecordedFirst first history id record) ∧
      (∀ id later, ledger.record? id = some later →
        ∃ record, RecordedFirst first history id record ∧ record.Keeps later) ∧
      (∀ now payload shards holder validUntil,
        (Standing first history (ContentId.ofContent payload) →
          ledger.register now payload shards holder validUntil =
            .ok (ContentId.ofContent payload, ledger)) ∧
        (¬ Standing first history (ContentId.ofContent payload) →
          ((∃ later, ledger.register now payload shards holder validUntil =
              .ok (ContentId.ofContent payload, later)) ↔
            ¬ RunsOutOfTime now validUntil ledger.settings.maxWindowHours.toNat)) ∧
        ∀ fault, ledger.register now payload shards holder validUntil = .error fault →
          ∀ id, (ledger.after (.added now payload shards holder validUntil)).record? id =
            ledger.record? id) ∧
      (∀ id, (ledger.remove id).1 = true ↔ Standing first history id) ∧
      (∀ live,
        (ledger.keepOnly live).1 =
            (ledger.blockIds.filter fun id => decide (id ∉ live)).length ∧
          ∀ id ∈ live, (ledger.keepOnly live).2.record? id = ledger.record? id) ∧
      (∀ id, id ∈ ledger.blockIds ↔ Standing first history id) ∧
      ledger.blockIds.Nodup ∧
      ledger.size = ledger.blockIds.length ∧
      (∀ peer id, id ∈ ledger.heldBy peer ↔
        ∃ record, ledger.record? id = some record ∧ record.holder = peer) ∧
      (∀ peer, ∀ id ∈ ledger.heldBy peer, id ∈ ledger.blockIds) ∧
      (∀ id ∈ ledger.blockIds, ∃! peer, id ∈ ledger.heldBy peer) ∧
      ∀ id, ¬ Standing first history id →
        ∀ instant, ledger.Refuses instant { block := id, hour := none } := by
  intro first ledger
  have standing : ∀ id, ledger.contains id = true ↔ Standing first history id :=
    contains_run_iff_standing settings salts history
  have absent : ∀ {id}, ¬ Standing first history id → ledger.contains id = false :=
    fun fallen => Bool.eq_false_iff.mpr fun present => fallen ((standing _).mp present)
  refine ⟨standing, ?_, ?_, ?_, standing, ?_, ?_, KeyedMap.nodup_keys _,
    (KeyedMap.length_keys _).symm, fun _ _ => mem_heldBy_iff, ?_, fun _ => existsUnique_heldBy, ?_⟩
  · intro goesOn id record
    constructor
    · intro recorded
      obtain ⟨earlier, recordedFirst, _, same⟩ := exists_recordedFirst recorded
      rwa [same goesOn]
    · intro recordedFirst
      obtain ⟨later, isLater, _, same⟩ := record?_run_of_recordedFirst recordedFirst
      rwa [same goesOn] at isLater
  · intro id later recorded
    obtain ⟨record, recordedFirst, keeps, _⟩ := exists_recordedFirst recorded
    exact ⟨record, recordedFirst, keeps⟩
  · intro now payload shards holder validUntil
    refine ⟨?_, ?_, ?_⟩
    · intro stands
      exact register_of_contains _ _ _ _ _ _ ((standing _).mpr stands)
    · intro fallen
      exact exists_register_eq_ok_iff (absent fallen) shards holder
    · intro fault fails id
      rw [after, record?, blocks_afterAddition_of_register_eq_error fails, record?]
  · intro live
    refine ⟨fst_keepOnly ledger live, ?_⟩
    intro id isLive
    rw [record?_keepOnly, if_pos isLive]
  · intro id
    rw [mem_blockIds_iff, standing]
  · intro peer id held
    obtain ⟨record, recorded, _⟩ := mem_heldBy_iff.mp held
    exact mem_blockIds_iff.mpr (contains_eq_true_iff.mpr ⟨record, recorded⟩)
  · intro id fallen instant
    exact refuses_unknown (contains_eq_false_iff.mp (absent fallen))

end FromEmpty

/-- A block goes to a first peer and is removed; it goes to a second one, is added again
for a third, and is kept when others are not. -/
def blockOnTheMove (payload : Bytes) (now : Instant) : List LedgerEvent :=
  [.added now payload [] (PeerId.ofByte 1) now, .removed (ContentId.ofContent payload)] ++
    .added now payload [ContentId.ofContent payload] (PeerId.ofByte 2) now ::
      [.added now payload [] (PeerId.ofByte 3) now, .keptOnly [ContentId.ofContent payload]]

theorem block_on_the_move_rests_with_second_holder :
    ∃ payload now record,
      let ledger :=
        (empty { saltLength := 4, maxWindowHours := 9 } (SaltStream.ofSeed 7)).run
          (blockOnTheMove payload now)
      ledger.record? (ContentId.ofContent payload) = some record ∧
        record.holder = PeerId.ofByte 2 ∧
        record.shards = [ContentId.ofContent payload] ∧
        ledger.register now payload [] (PeerId.ofByte 4) now =
          .ok (ContentId.ofContent payload, ledger) ∧
        (ledger.remove (ContentId.ofContent payload)).1 = true := by
  let payload : Bytes := [1, 2, 3]
  let now : Instant := (Instant.of? 3600 0).get (by decide)
  let first := empty { saltLength := 4, maxWindowHours := 9 } (SaltStream.ofSeed 7)
  obtain ⟨_, records, _, calls, removals, _⟩ :=
    ledger_has_what_its_history_left_standing { saltLength := 4, maxWindowHours := 9 }
      (SaltStream.ofSeed 7) (blockOnTheMove payload now)
  have goesOn : ∀ event ∈ blockOnTheMove payload now, ¬ event.Restarts := by
    simp [blockOnTheMove, LedgerEvent.Restarts]
  have kept :
      ∀ since ∈ [LedgerEvent.added now payload [] (PeerId.ofByte 3) now,
          .keptOnly [ContentId.ofContent payload]],
        ¬ since.Drops (ContentId.ofContent payload) := by
    simp [LedgerEvent.Drops]
  let before : List LedgerEvent :=
    [.added now payload [] (PeerId.ofByte 1) now, .removed (ContentId.ofContent payload)]
  have goneBefore : ¬ Standing first before (ContentId.ofContent payload) := by
    change ¬ Standing first ([_] ++ [_]) _
    rw [standing_append_singleton]
    simp [LedgerEvent.Adds, LedgerEvent.Drops]
  have inTime :
      ¬ RunsOutOfTime now now (first.run before).settings.maxWindowHours.toNat :=
    fun late => absurd late.1 (by decide)
  have adds :
      (LedgerEvent.added now payload [ContentId.ofContent payload] (PeerId.ofByte 2) now).Adds
        (first.run before) (ContentId.ofContent payload) := by
    have absent := Bool.eq_false_iff.mpr fun present =>
      goneBefore ((contains_run_iff_standing _ _ before _).mp present)
    exact (exists_register_eq_ok_iff absent _ _).mpr inTime
  have stands : Standing first (blockOnTheMove payload now) (ContentId.ofContent payload) :=
    ⟨before, _, _, rfl, adds, kept⟩
  have recorded :=
    (records goesOn (ContentId.ofContent payload) _).mpr
      ⟨before, now, payload, _, _, now, _, rfl, adds, kept, goneBefore, rfl⟩
  exact ⟨payload, now, _, recorded, rfl, rfl, (calls now payload [] _ now).1 stands,
    (removals _).mpr stands⟩

end Ledger

end BlockCustody
