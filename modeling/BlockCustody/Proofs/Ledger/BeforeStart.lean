import BlockCustody.Proofs.Ledger.History
import BlockCustody.Proofs.Ledger.Questions

/-!
Contract: questions at instants before a calendar starts.

Owns:
- that such questions are refused up to a whole second before the start, under a
  negative hour;
- that in the last second before the start they are answered from the first hour.

Does not own: instants from the start on.
-/

namespace BlockCustody

namespace EvidenceCalendar

variable {calendar : EvidenceCalendar} {payload : Bytes} {instant : Instant}

/-- In the last second before its start a calendar is in its first hour. -/
theorem hourOf_eq_zero_of_last_second
    (made : calendar.MadeFrom payload)
    (early : instant.Before calendar.start)
    (lastSecond : -Calendar.nanosPerSecond < calendar.start.elapsedNanos instant) :
    calendar.hourOf instant = 0 := by
  have notPositive := Instant.hoursBetween_nonpos_of_before made.wholeSecond early
  have notNegative : ¬ Instant.hoursBetween calendar.start instant < 0 := by
    rw [Instant.hoursBetween_neg_iff]
    omega
  rw [hourOf]
  omega

theorem proofAt?_of_hourOf_eq_zero
    (nonempty : calendar.proofs ≠ [])
    (firstHour : calendar.hourOf instant = 0) :
    ∃ first, calendar.proofs.head? = some first ∧ calendar.proofAt? instant = some first := by
  cases proofs : calendar.proofs with
  | nil => exact absurd proofs nonempty
  | cons first others =>
      have place : calendar.index? instant = some 0 := by
        apply index?_eq_some_iff.mpr
        rw [length, proofs]
        exact ⟨firstHour, Nat.succ_pos _⟩
      refine ⟨first, rfl, ?_⟩
      rw [proofAt?, place, Option.bind_some, proof?, proofs]
      rfl

end EvidenceCalendar

namespace Ledger

/-- Hours are exact but for the last second before a whole hour on the far side of the
start, which counts for the hour after it. So after any history, questions about a
block are refused under a negative hour exactly from a whole second before its
calendar starts; in the last second before the start they are answered from the first
hour of the calendar, and its holder is asked. -/
theorem refuses_exactly_a_second_before_start
    (settings : ProofSettings)
    (salts : SaltStream)
    (history : List LedgerEvent)
    (ledger : Ledger)
    (isAfter : ledger = (empty settings salts).run history)
    {id : BlockId}
    {record : BlockRecord}
    (recorded : ledger.record? id = some record) :
    (∀ start finish,
      Instant.hoursBetween start finish =
        Instant.exactHours start finish + if Instant.RoundsUp start finish then 1 else 0) ∧
    (∀ instant,
      (∃ hour < 0, ledger.Refuses instant { block := id, hour := some hour }) ↔
        record.calendar.start.elapsedNanos instant ≤ -Calendar.nanosPerSecond) ∧
    ∀ instant, instant.Before record.calendar.start →
      -Calendar.nanosPerSecond < record.calendar.start.elapsedNanos instant →
      ∃ first, record.calendar.proofs.head? = some first ∧
        ledger.AnswersFrom id instant record.holder first := by
  subst isAfter
  obtain ⟨payload, _, _, made⟩ := run_empty_madeFrom settings salts history id record recorded
  refine ⟨Instant.hoursBetween_eq, ?_, ?_⟩
  · intro instant
    rw [← Instant.hoursBetween_neg_iff]
    constructor
    · rintro ⟨hour, negative, refuses⟩
      have isHour := hour_of_refuses recorded refuses
      rw [EvidenceCalendar.hourOf] at isHour
      rwa [← isHour]
    · intro negative
      have noPlace : record.calendar.index? instant = none :=
        EvidenceCalendar.index?_eq_none_iff.mpr (Or.inl negative)
      exact ⟨_, negative, refuses_outside recorded noPlace⟩
  · intro instant early lastSecond
    have firstHour := EvidenceCalendar.hourOf_eq_zero_of_last_second made early lastSecond
    obtain ⟨first, isFirst, found⟩ :=
      EvidenceCalendar.proofAt?_of_hourOf_eq_zero made.nonempty firstHour
    exact ⟨first, isFirst, answersFrom_of_found recorded found⟩

def addedAtOne : List LedgerEvent :=
  [.added ((Instant.of? 3600 0).get (by decide)) [1, 2, 3] [] (PeerId.ofByte 7)
    ((Instant.of? 9000 0).get (by decide))]

theorem questions_around_one_o_clock :
    ∃ ledger id first,
      ledger = (empty { saltLength := 4, maxWindowHours := 9 } (SaltStream.ofSeed 7)).run
        addedAtOne ∧
      (∃ hour < 0,
        ledger.Refuses ((Instant.of? 3599 0).get (by decide))
          { block := id, hour := some hour }) ∧
      ledger.AnswersFrom id ((Instant.of? 3599 500000000).get (by decide)) (PeerId.ofByte 7)
        first := by
  let settings : ProofSettings := { saltLength := 4, maxWindowHours := 9 }
  let ledger := (empty settings (SaltStream.ofSeed 7)).run addedAtOne
  let id := ContentId.ofContent [1, 2, 3]
  have isRecorded :
      (ledger.record? id).map (fun record => (record.calendar.start, record.holder)) =
        some ((Instant.of? 3600 0).get (by decide), PeerId.ofByte 7) := by
    decide +kernel
  obtain ⟨record, recorded, isStart⟩ := Option.map_eq_some_iff.mp isRecorded
  rw [Prod.mk.injEq] at isStart
  obtain ⟨_, refused, answered⟩ :=
    refuses_exactly_a_second_before_start settings (SaltStream.ofSeed 7) addedAtOne ledger rfl
      recorded
  rw [isStart.1] at refused answered
  rw [isStart.2] at answered
  obtain ⟨first, _, answers⟩ :=
    answered ((Instant.of? 3599 500000000).get (by decide)) (by decide) (by decide)
  exact ⟨ledger, id, first, rfl, (refused _).mpr (by decide), answers⟩

/-- Half a second before its calendar starts, a block is challenged all the same: the
hour comes out as the first, and not as the one before it. -/
theorem challenged_half_a_second_before_start :
    ∃ ledger id record instant,
      ledger = (empty { saltLength := 4, maxWindowHours := 9 } (SaltStream.ofSeed 7)).run
        addedAtOne ∧
      ledger.record? id = some record ∧
      instant.Before record.calendar.start ∧
      Instant.exactHours record.calendar.start instant = -1 ∧
      Instant.hoursBetween record.calendar.start instant = 0 ∧
      ledger.challengeSalt id instant = .ok [126, 244, 232, 69] ∧
      ∃ request, ledger.auditRequest id instant = .ok request := by
  let ledger :=
    (empty { saltLength := 4, maxWindowHours := 9 } (SaltStream.ofSeed 7)).run addedAtOne
  let id := ContentId.ofContent [1, 2, 3]
  let instant := (Instant.of? 3599 500000000).get (by decide)
  have isRecorded : (ledger.record? id).isSome = true := by decide +kernel
  obtain ⟨record, recorded⟩ := Option.isSome_iff_exists.mp isRecorded
  have calendarHas :
      (ledger.record? id).map (fun record =>
          (record.calendar.start, record.calendar.proofAt? instant)) =
        some ((Instant.of? 3600 0).get (by decide),
          some (EvidenceCalendar.proofOf [1, 2, 3] [126, 244, 232, 69])) := by
    decide +kernel
  rw [recorded, Option.map_some, Option.some.injEq, Prod.mk.injEq] at calendarHas
  have answers := answersFrom_of_found recorded calendarHas.2
  refine ⟨ledger, id, record, instant, rfl, recorded, ?_, ?_, ?_, answers.challengeSalt,
    _, answers.auditRequest⟩
  all_goals
    rw [calendarHas.1]
    decide

end Ledger

end BlockCustody
