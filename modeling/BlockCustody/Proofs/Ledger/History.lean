import BlockCustody.Proofs.Evidence.Calendar
import BlockCustody.Proofs.Ledger.Addition
import BlockCustody.Proofs.Ledger.Snapshot

/-!
Contract: what every ledger grown from an empty one holds.

Owns:
- what happens to a ledger, calls that fail and restarts from its own snapshot
  included, and histories of it;
- that a record after an event is an earlier one, as it was or as it is written, or the
  one the event wrote;
- that after any history every record was made from bytes that were added, under
  the id of those bytes.

Does not own: which of the added blocks are still there.
-/

namespace BlockCustody

/-- What happens to a ledger. -/
inductive LedgerEvent where
  | added
      (now : Instant)
      (payload : Bytes)
      (shards : List ShardId)
      (holder : PeerId)
      (validUntil : Instant)
  | removed (id : BlockId)
  | keptOnly (live : List BlockId)
  | restarted (settings : ProofSettings) (salts : SaltStream)

def LedgerEvent.payloads : LedgerEvent → List Bytes
  | .added _ payload _ _ _ => [payload]
  | .removed _ => []
  | .keptOnly _ => []
  | .restarted _ _ => []

/-- The event brings in other settings and another stream. -/
def LedgerEvent.Restarts : LedgerEvent → Prop
  | .added _ _ _ _ _ => False
  | .removed _ => False
  | .keptOnly _ => False
  | .restarted _ _ => True

namespace BlockRecord

/-- The later record is the earlier one, as it was or as it is written. -/
def Keeps (earlier later : BlockRecord) : Prop :=
  later = earlier ∨ later = earlier.asWritten

variable {earlier later last : BlockRecord}

theorem Keeps.refl (record : BlockRecord) : record.Keeps record :=
  Or.inl rfl

theorem Keeps.trans (keeps : earlier.Keeps later) (keepsOn : later.Keeps last) :
    earlier.Keeps last := by
  rcases keeps with rfl | rfl
  · exact keepsOn
  · rcases keepsOn with rfl | rfl
    · exact Or.inr rfl
    · exact Or.inr (asWritten_asWritten earlier)

theorem Keeps.proofs (keeps : earlier.Keeps later) :
    later.calendar.proofs = earlier.calendar.proofs := by
  rcases keeps with rfl | rfl <;> rfl

theorem Keeps.calendar (keeps : earlier.Keeps later)
    (notInside : ¬ earlier.calendar.start.InsideMinute) :
    later.calendar = earlier.calendar := by
  rcases keeps with rfl | rfl
  · rfl
  · exact calendar_asWritten notInside

end BlockRecord

namespace Ledger

/-- The ledger restored from its own snapshot; it stays as it is where no snapshot
can be written. -/
def restart (ledger : Ledger) (settings : ProofSettings) (salts : SaltStream) : Ledger :=
  match ledger.toSnapshot with
  | .error _ => ledger
  | .ok bytes =>
      match ofSnapshot settings salts bytes with
      | .error _ => ledger
      | .ok restored => restored

def after (ledger : Ledger) : LedgerEvent → Ledger
  | .added now payload shards holder validUntil =>
      ledger.afterAddition now payload shards holder validUntil
  | .removed id => (ledger.remove id).2
  | .keptOnly live => (ledger.keepOnly live).2
  | .restarted settings salts => ledger.restart settings salts

/-- The ledger after a history, its events in the order in which they happened. -/
def run (ledger : Ledger) (history : List LedgerEvent) : Ledger :=
  history.foldl after ledger

/-- Every record was made from one of these byte strings, and stands under its id. -/
def MadeFrom (ledger : Ledger) (payloads : List Bytes) : Prop :=
  ∀ id record, ledger.record? id = some record →
    ∃ payload ∈ payloads,
      ContentId.ofContent payload = id ∧ record.calendar.MadeFrom payload

theorem MadeFrom.mono
    {ledger : Ledger}
    {fewer more : List Bytes}
    (made : ledger.MadeFrom fewer)
    (included : ∀ payload ∈ fewer, payload ∈ more) :
    ledger.MadeFrom more := by
  intro id record recorded
  obtain ⟨payload, member, isId, calendarMade⟩ := made id record recorded
  exact ⟨payload, included payload member, isId, calendarMade⟩

theorem MadeFrom.hasEvidence
    {ledger : Ledger}
    {payloads : List Bytes}
    (made : ledger.MadeFrom payloads) :
    ledger.HasEvidence := by
  intro id record recorded
  obtain ⟨_, _, _, calendarMade⟩ := made id record recorded
  exact calendarMade.nonempty

theorem empty_madeFrom (settings : ProofSettings) (salts : SaltStream) :
    (empty settings salts).MadeFrom [] := by
  intro id record recorded
  rw [record?, empty, KeyedMap.find?_empty] at recorded
  cases recorded

/-! ## One event -/

/-- A restart changes no record but to what is written for it. -/
theorem restart_cases
    {ledger : Ledger}
    (hasEvidence : ledger.HasEvidence)
    (settings : ProofSettings)
    (salts : SaltStream) :
    ledger.restart settings salts = ledger ∨
      ledger.restart settings salts = { ledger.asWritten with settings, salts } := by
  unfold restart
  cases isWritten : ledger.toSnapshot with
  | error fault => exact Or.inl rfl
  | ok bytes => exact Or.inr (by simp [ofSnapshot_of_toSnapshot hasEvidence isWritten])

theorem record?_restart
    {ledger : Ledger}
    (hasEvidence : ledger.HasEvidence)
    (settings : ProofSettings)
    (salts : SaltStream)
    (id : BlockId) :
    (ledger.restart settings salts).record? id = ledger.record? id ∨
      (ledger.restart settings salts).record? id =
        (ledger.record? id).map BlockRecord.asWritten := by
  rcases restart_cases hasEvidence settings salts with isSame | isWritten
  · rw [isSame]
    exact Or.inl rfl
  · rw [isWritten]
    exact Or.inr (record?_asWritten ledger id)

/-- A record is from before an event, or the event wrote it. -/
theorem record?_after_cases
    {ledger : Ledger}
    {id : BlockId}
    {record : BlockRecord}
    (hasEvidence : ledger.HasEvidence)
    {event : LedgerEvent}
    (recorded : (ledger.after event).record? id = some record) :
    (∃ earlier, ledger.record? id = some earlier ∧ earlier.Keeps record ∧
        (¬ event.Restarts → record = earlier)) ∨
      ∃ now payload shards holder validUntil,
        event = .added now payload shards holder validUntil ∧
          ContentId.ofContent payload = id ∧
          record = ledger.addedRecord now payload shards holder validUntil := by
  have fromBefore : ledger.record? id = some record →
      ∃ earlier, ledger.record? id = some earlier ∧ earlier.Keeps record ∧
        (¬ event.Restarts → record = earlier) :=
    fun before => ⟨record, before, .refl record, fun _ => rfl⟩
  cases event with
  | added now payload shards holder validUntil =>
      rw [after, record?_afterAddition] at recorded
      split at recorded
      · next new =>
          cases recorded
          exact Or.inr ⟨now, payload, shards, holder, validUntil, rfl, new.1.1.symm, rfl⟩
      · exact Or.inl (fromBefore recorded)
  | removed gone => exact Or.inl (fromBefore (KeyedMap.find?_filter_eq_some_iff.mp recorded).1)
  | keptOnly live => exact Or.inl (fromBefore (KeyedMap.find?_filter_eq_some_iff.mp recorded).1)
  | restarted settings salts =>
      rw [after] at recorded
      rcases record?_restart hasEvidence settings salts id with isSame | isWritten
      · rw [isSame] at recorded
        exact Or.inl (fromBefore recorded)
      · rw [isWritten, Option.map_eq_some_iff] at recorded
        obtain ⟨earlier, before, rfl⟩ := recorded
        exact Or.inl ⟨earlier, before, Or.inr rfl, fun goesOn => absurd trivial goesOn⟩

theorem HasEvidence.after
    {ledger : Ledger}
    (hasEvidence : ledger.HasEvidence)
    (event : LedgerEvent) :
    (ledger.after event).HasEvidence := by
  intro id record recorded
  rcases record?_after_cases hasEvidence recorded with
    ⟨earlier, before, keeps, _⟩ | ⟨now, payload, shards, holder, validUntil, _, _, rfl⟩
  · rw [keeps.proofs]
    exact hasEvidence id earlier before
  · exact (EvidenceCalendar.generate_madeFrom payload now validUntil _ _ _).nonempty

theorem HasEvidence.add
    {ledger : Ledger}
    (hasEvidence : ledger.HasEvidence)
    (now : Instant)
    (payload : Bytes)
    (shards : List ShardId)
    (holder : PeerId)
    (validUntil : Instant) :
    (ledger.add now payload shards holder validUntil).2.HasEvidence := by
  intro id record recorded
  rw [record?_add] at recorded
  split at recorded
  · cases recorded
    exact (EvidenceCalendar.generate_madeFrom payload now validUntil _ _ _).nonempty
  · exact hasEvidence id record recorded

/-- Whatever happens, records are made from what was shown to the ledger. -/
theorem MadeFrom.after
    {ledger : Ledger}
    {payloads : List Bytes}
    (made : ledger.MadeFrom payloads)
    (event : LedgerEvent) :
    (ledger.after event).MadeFrom (event.payloads ++ payloads) := by
  intro id record recorded
  rcases record?_after_cases made.hasEvidence recorded with
    ⟨earlier, before, keeps, _⟩ | ⟨now, payload, shards, holder, validUntil, rfl, isId, rfl⟩
  · obtain ⟨payload, member, isId, calendarMade⟩ := made id earlier before
    refine ⟨payload, List.mem_append_right event.payloads member, isId, ?_⟩
    rwa [keeps.calendar calendarMade.not_insideMinute]
  · have calendarMade := EvidenceCalendar.generate_madeFrom payload now validUntil
    exact ⟨payload, List.mem_cons_self, isId, calendarMade _ _ _⟩

/-! ## Histories -/

/-- The bytes shown to the ledger in the course of a history. -/
def payloadsOf (history : List LedgerEvent) : List Bytes :=
  history.flatMap LedgerEvent.payloads

theorem MadeFrom.run
    {ledger : Ledger}
    {payloads : List Bytes}
    (made : ledger.MadeFrom payloads)
    (history : List LedgerEvent) :
    (ledger.run history).MadeFrom (payloadsOf history ++ payloads) := by
  induction history generalizing ledger payloads with
  | nil => exact made
  | cons event later inductionHypothesis =>
      have laterMade := inductionHypothesis (made.after event)
      refine laterMade.mono ?_
      intro payload member
      simp only [payloadsOf, List.flatMap_cons, List.mem_append] at member ⊢
      rcases member with fromLater | fromEvent | fromBefore
      · exact Or.inl (Or.inr fromLater)
      · exact Or.inl (Or.inl fromEvent)
      · exact Or.inr fromBefore

theorem run_empty_madeFrom
    (settings : ProofSettings)
    (salts : SaltStream)
    (history : List LedgerEvent) :
    ((empty settings salts).run history).MadeFrom (payloadsOf history) := by
  have made := (empty_madeFrom settings salts).run history
  rwa [List.append_nil] at made

end Ledger

end BlockCustody
