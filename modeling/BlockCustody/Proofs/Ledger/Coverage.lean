import BlockCustody.Proofs.Ledger.History
import BlockCustody.Proofs.Ledger.Questions

/-!
Contract: the instants at which a new block can be audited.

Owns: that the calendar of a new block covers its validity up to the limit of hours,
without gaps, and nothing after the hour in which validity ends.

Does not own: instants before the calendar starts.
-/

namespace BlockCustody

namespace Ledger

/-- A salt can be had for the instant, and the digest of these bytes under it is
confirmed. -/
def Confirms (ledger : Ledger) (id : BlockId) (instant : Instant) (payload : Bytes) : Prop :=
  ∃ salt, ledger.challengeSalt id instant = .ok salt ∧
    ledger.confirm id instant (saltedDigest salt payload) = .ok true

theorem confirms_of_hourOf
    {ledger : Ledger}
    {id : BlockId}
    {record : BlockRecord}
    (recorded : ledger.record? id = some record)
    {payload : Bytes}
    (made : record.calendar.MadeFrom payload)
    {instant : Instant}
    (notBefore : 0 ≤ record.calendar.hourOf instant)
    (notAfter : record.calendar.hourOf instant < record.calendar.length) :
    ledger.Confirms id instant payload := by
  obtain ⟨proof, found⟩ := EvidenceCalendar.exists_proofAt? notBefore notAfter
  have answers := answersFrom_of_found recorded found
  have isOver := made.isOver proof (EvidenceCalendar.mem_of_proofAt? found)
  refine ⟨proof.salt, answers.challengeSalt, ?_⟩
  rw [answers.confirm, isOver, decide_eq_true rfl]

/-- The calendar of a new block starts at the top of the current hour. It has the hours from
there to the end of validity but no more than the limit, and one more; where validity keeps
to the limit, its end is in the last of them. If validity keeps to the limit, the block's
bytes are confirmed at every instant from the start through the end of validity, and
otherwise at every instant that is no more hours away than the limit. Later instants
have no earlier places. More hours away than the end of validity there is no evidence,
and none from the end of the last hour on. If that hour is an instant, the block has been
registered. -/
theorem new_block_is_confirmed_throughout_validity
    (ledger : Ledger)
    (now : Instant)
    (payload : Bytes)
    (shards : List ShardId)
    (holder : PeerId)
    (validUntil : Instant)
    (isNew : ledger.contains (ContentId.ofContent payload) = false) :
    let id := ContentId.ofContent payload
    let start := now.topOfHour
    let maxHours := ledger.settings.maxWindowHours.toNat
    ∃ later record,
      ledger.add now payload shards holder validUntil = (id, later) ∧
      (record.calendar.lastHour? ≠ none →
        ledger.register now payload shards holder validUntil = .ok (id, later)) ∧
      later.record? id = some record ∧
      record.calendar.start = start ∧
      1 ≤ record.calendar.length ∧
      record.calendar.length ≤ maxHours + 1 ∧
      record.calendar.length = min (Instant.hoursBetween start validUntil).toNat maxHours + 1 ∧
      (start ≤ validUntil → Instant.hoursBetween start validUntil ≤ maxHours →
        record.calendar.index? validUntil = some (record.calendar.length - 1)) ∧
      (Instant.hoursBetween start validUntil ≤ maxHours →
        ∀ instant, start ≤ instant → instant ≤ validUntil →
          later.Confirms id instant payload) ∧
      (maxHours ≤ Instant.hoursBetween start validUntil →
        ∀ instant, start ≤ instant → Instant.hoursBetween start instant ≤ maxHours →
          later.Confirms id instant payload) ∧
      (∀ first second, first ≤ second → ∀ firstIndex secondIndex,
        record.calendar.index? first = some firstIndex →
        record.calendar.index? second = some secondIndex →
        firstIndex ≤ secondIndex) ∧
      (∀ instant, 0 < Instant.hoursBetween start instant →
        Instant.hoursBetween start validUntil < Instant.hoursBetween start instant →
          later.Refuses instant
            { block := id, hour := some (Instant.hoursBetween start instant) }) ∧
      ∀ finish, start.plusHours? record.calendar.length = some finish →
        ∀ instant, finish ≤ instant →
          ∃ hour, later.Refuses instant { block := id, hour := some hour } := by
  intro id start maxHours
  let record := ledger.addedRecord now payload shards holder validUntil
  have recorded := record?_add ledger now payload shards holder validUntil id
  rw [if_pos ⟨rfl, isNew⟩] at recorded
  have made : record.calendar.MadeFrom payload :=
    EvidenceCalendar.generate_madeFrom payload now validUntil _ _ _
  have length :
      record.calendar.length = EvidenceCalendar.spanHours start validUntil maxHours + 1 :=
    EvidenceCalendar.length_generate payload now validUntil _ _ _
  have atMost : EvidenceCalendar.spanHours start validUntil maxHours ≤ maxHours :=
    Nat.min_le_right _ _
  have hourOf : ∀ instant, record.calendar.hourOf instant = Instant.hoursBetween start instant :=
    fun _ => rfl
  refine ⟨_, record, Prod.ext (fst_add ..) rfl, ?_, recorded, rfl, ?_, ?_, length, ?_, ?_, ?_,
    ?_, ?_, ?_⟩
  · intro hasLastHour
    rw [register_eq, if_neg fun fails => hasLastHour fails.2]
    exact congrArg Except.ok (Prod.ext (fst_add ..) rfl)
  · omega
  · rw [length]
    exact Nat.succ_le_succ atMost
  · intro notEarlier keepsLimit
    have notBefore := Instant.hoursBetween_nonneg_of_le made.wholeSecond notEarlier
    rw [EvidenceCalendar.index?_eq_some_iff, hourOf, length, EvidenceCalendar.spanHours]
    change 0 ≤ Instant.hoursBetween start validUntil at notBefore
    omega
  · intro keepsLimit instant notEarlier notLater
    have notBefore := Instant.hoursBetween_nonneg_of_le made.wholeSecond notEarlier
    have within :=
      EvidenceCalendar.hoursBetween_le_spanHours made.wholeSecond notEarlier notLater keepsLimit
    have notAfter : record.calendar.hourOf instant < record.calendar.length := by
      rw [length]
      exact Int.lt_add_one_of_le within
    exact confirms_of_hourOf recorded made notBefore notAfter
  · intro reachesLimit instant notEarlier withinLimit
    have notBefore := Instant.hoursBetween_nonneg_of_le made.wholeSecond notEarlier
    have notAfter : record.calendar.hourOf instant < record.calendar.length := by
      rw [length, EvidenceCalendar.spanHours_eq_of_limit reachesLimit]
      exact Int.lt_add_one_of_le withinLimit
    exact confirms_of_hourOf recorded made notBefore notAfter
  · intro first second ordered firstIndex secondIndex isFirst isSecond
    exact EvidenceCalendar.index?_mono made ordered isFirst isSecond
  · intro instant positive afterEnd
    have noPlace : record.calendar.index? instant = none := by
      rw [EvidenceCalendar.index?_eq_none_iff, hourOf, length, EvidenceCalendar.spanHours]
      omega
    have refused := refuses_outside recorded noPlace
    rwa [hourOf] at refused
  · intro finish isFinish instant notEarlier
    have noPlace := EvidenceCalendar.index?_eq_none_of_finish made isFinish notEarlier
    exact ⟨_, refuses_outside recorded noPlace⟩

/-- A leap second at the end of the first hour of 1970. -/
def leapSecondAtOne : Instant :=
  (Instant.of? 3599 1500000000).get (by decide)

/-- A leap second two hours later. -/
def leapSecondAtThree : Instant :=
  (Instant.of? 10799 1200000000).get (by decide)

theorem block_added_in_leap_second_is_confirmed_through_leap_second :
    ∃ later,
      (empty { saltLength := 4, maxWindowHours := 9 } (SaltStream.ofSeed 7)).register
          leapSecondAtOne [1, 2, 3] [] (PeerId.ofByte 7) leapSecondAtThree =
        .ok (ContentId.ofContent [1, 2, 3], later) ∧
      later.Confirms (ContentId.ofContent [1, 2, 3]) leapSecondAtOne [1, 2, 3] ∧
      later.Confirms (ContentId.ofContent [1, 2, 3]) leapSecondAtThree [1, 2, 3] ∧
      later.Refuses ((Instant.of? 14400 0).get (by decide))
        { block := ContentId.ofContent [1, 2, 3], hour := some 4 } := by
  let before := empty { saltLength := 4, maxWindowHours := 9 } (SaltStream.ofSeed 7)
  obtain ⟨later, record, isAdded, isRegistered, recorded, _, _, _, _, _, covered, _, _, ended, _⟩ :=
    new_block_is_confirmed_throughout_validity before leapSecondAtOne [1, 2, 3] []
      (PeerId.ofByte 7) leapSecondAtThree (by decide +kernel)
  have isLater := congrArg Prod.snd isAdded
  have hasLastHour :
      ((before.add leapSecondAtOne [1, 2, 3] [] (PeerId.ofByte 7) leapSecondAtThree).2.record?
          (ContentId.ofContent [1, 2, 3])).bind (fun record => record.calendar.lastHour?) ≠
        none := by
    decide +kernel
  rw [isLater, recorded, Option.bind_some] at hasLastHour
  have keepsLimit :
      Instant.hoursBetween leapSecondAtOne.topOfHour leapSecondAtThree ≤
        before.settings.maxWindowHours.toNat := by
    decide +kernel
  refine ⟨later, isRegistered hasLastHour, ?_, ?_, ?_⟩
  · exact covered keepsLimit leapSecondAtOne (by decide) (by decide)
  · exact covered keepsLimit leapSecondAtThree (by decide) (by decide)
  · exact ended ((Instant.of? 14400 0).get (by decide)) (by decide) (by decide)

end Ledger

end BlockCustody
