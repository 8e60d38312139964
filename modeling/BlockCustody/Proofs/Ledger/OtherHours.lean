import BlockCustody.Config.Text
import BlockCustody.Proofs.Ledger.Audit
import BlockCustody.Proofs.Ledger.Persistence

/-!
Contract: what an answer for one hour of a calendar is worth in another hour.

Owns:
- when a stream hands out no salt twice;
- that hours of a calendar then have salts of their own exactly if salts have a length;
- when an answer for one hour is confirmed in another.

Does not own: answers given without the salt of any hour.
-/

namespace BlockCustody

/-- Of the next salts of a length, none that has a byte comes twice. -/
def SaltStream.NeverRepeats (salts : SaltStream) (saltLength count : Nat) : Prop :=
  ∀ later < count, ∀ earlier < later,
    salts.segment (salts.taken + earlier * saltLength) saltLength ≠ [] →
      salts.segment (salts.taken + earlier * saltLength) saltLength ≠
        salts.segment (salts.taken + later * saltLength) saltLength

instance (salts : SaltStream) (saltLength count : Nat) :
    Decidable (salts.NeverRepeats saltLength count) :=
  inferInstanceAs (Decidable (∀ later < count, ∀ earlier < later, _ → _))

/-- Without a collision, salts are told apart by their digests over the same content. -/
theorem saltedDigest_eq_iff_salt_eq
    {salt otherSalt content : Bytes}
    (noCollision : ¬ Collide (salt ++ content) (otherSalt ++ content)) :
    saltedDigest salt content = saltedDigest otherSalt content ↔ salt = otherSalt := by
  constructor
  · intro sameText
    have sameDigest := Text.Hex.encode_injective sameText
    exact List.append_cancel_right (eq_of_hash_eq noCollision sameDigest)
  · rintro rfl
    rfl

namespace EvidenceCalendar

variable {payload : Bytes} {now validUntil instant : Instant} {maxHours saltLength : Nat}
variable {salts : SaltStream}

/-- At an instant in its calendar a block is proved by what was drawn for that hour. -/
theorem proofAt?_generate
    {index : Nat}
    (place :
      (generate payload now validUntil maxHours saltLength salts).1.index? instant =
        some index) :
    (generate payload now validUntil maxHours saltLength salts).1.proofAt? instant =
      some (proofOfHour payload saltLength salts index) := by
  have inside := (index?_eq_some_iff.mp place).2
  rw [length_generate] at inside
  rw [proofAt?, place, Option.bind_some, proof?, generate_eq, List.getElem?_map,
    List.getElem?_range inside, Option.map_some]

/-- Hours have one salt only if they are one hour, or if there is nothing to a salt. -/
theorem salt_proofOfHour_eq_iff
    {count index otherIndex : Nat}
    (neverRepeats : salts.NeverRepeats saltLength count)
    (inside : index < count)
    (otherInside : otherIndex < count) :
    (proofOfHour payload saltLength salts otherIndex).salt =
        (proofOfHour payload saltLength salts index).salt ↔
      otherIndex = index ∨ saltLength = 0 := by
  have length : ∀ hour, (proofOfHour payload saltLength salts hour).salt.length = saltLength :=
    fun _ => SaltStream.length_segment _ _ _
  constructor
  · intro same
    by_cases noSalt : saltLength = 0
    · exact Or.inr noSalt
    · have hasByte : ∀ hour, (proofOfHour payload saltLength salts hour).salt ≠ [] := by
        intro hour isEmpty
        have emptyLength := length hour
        rw [isEmpty] at emptyLength
        exact noSalt emptyLength.symm
      rcases Nat.lt_trichotomy otherIndex index with earlier | sameHour | later
      · exact absurd same (neverRepeats index inside otherIndex earlier (hasByte otherIndex))
      · exact Or.inl sameHour
      · exact absurd same.symm (neverRepeats otherIndex otherInside index later (hasByte index))
  · rintro (rfl | noSalt)
    · rfl
    · have isEmpty : ∀ hour, (proofOfHour payload saltLength salts hour).salt = [] :=
        fun hour => List.length_eq_zero_iff.mp ((length hour).trans noSalt)
      rw [isEmpty, isEmpty]

end EvidenceCalendar

namespace Ledger

variable {ledger : Ledger} {payload : Bytes} {later : List LedgerEvent}

/-- A block that is added anew keeps the calendar of that addition until it is dropped. -/
theorem record?_run_of_added
    (hasEvidence : ledger.HasEvidence)
    (unknown : ledger.contains (ContentId.ofContent payload) = false)
    (kept : ∀ since ∈ later, ¬ since.Drops (ContentId.ofContent payload))
    (now : Instant)
    (shards : List ShardId)
    (holder : PeerId)
    (validUntil : Instant) :
    ∃ record,
      ((ledger.add now payload shards holder validUntil).2.run later).record?
          (ContentId.ofContent payload) = some record ∧
        record.calendar =
          (EvidenceCalendar.generate payload now validUntil ledger.settings.maxWindowHours.toNat
            ledger.settings.saltLength.toNat ledger.salts).1 := by
  have made := EvidenceCalendar.generate_madeFrom payload now validUntil
    ledger.settings.maxWindowHours.toNat ledger.settings.saltLength.toNat ledger.salts
  have recorded := record?_add ledger now payload shards holder validUntil
    (ContentId.ofContent payload)
  rw [if_pos ⟨rfl, unknown⟩] at recorded
  obtain ⟨record, isRecord, keeps, _⟩ :=
    record?_run_of_recorded (hasEvidence.add now payload shards holder validUntil) recorded kept
  exact ⟨record, isRecord, keeps.calendar made.not_insideMinute⟩

/-- A block is added to any ledger that does not have it, and kept. Where the stream hands
out no salt twice for its calendar and the two salts at hand make no collision, what a holder
must answer in one hour is confirmed in another hour exactly if salts are empty. -/
theorem answer_is_good_in_its_own_hour_or_without_salts
    (arises : ledger.Arises)
    (unknown : ledger.contains (ContentId.ofContent payload) = false)
    (kept : ∀ since ∈ later, ¬ since.Drops (ContentId.ofContent payload))
    (now : Instant)
    (shards : List ShardId)
    (holder : PeerId)
    (validUntil : Instant) :
    let id := ContentId.ofContent payload
    let laterLedger := (ledger.add now payload shards holder validUntil).2.run later
    ∃ record, laterLedger.record? id = some record ∧
      (ledger.salts.NeverRepeats ledger.settings.saltLength.toNat record.calendar.length →
        ∀ asked other index otherIndex,
          record.calendar.index? asked = some index →
          record.calendar.index? other = some otherIndex →
          ∃ salt otherSalt,
            laterLedger.challengeSalt id asked = .ok salt ∧
              laterLedger.challengeSalt id other = .ok otherSalt ∧
              (¬ Collide (otherSalt ++ payload) (salt ++ payload) →
                laterLedger.confirm id other (saltedDigest salt payload) =
                  .ok (decide (otherIndex = index ∨ ledger.settings.saltLength = 0)))) := by
  intro id laterLedger
  obtain ⟨record, recorded, isCalendar⟩ :=
    record?_run_of_added arises.hasEvidence unknown kept now shards holder validUntil
  refine ⟨record, recorded, ?_⟩
  intro neverRepeats asked other index otherIndex place otherPlace
  have inside := (EvidenceCalendar.index?_eq_some_iff.mp place).2
  have otherInside := (EvidenceCalendar.index?_eq_some_iff.mp otherPlace).2
  have foundAt : ∀ {instant : Instant} {index : Nat},
      record.calendar.index? instant = some index →
        record.calendar.proofAt? instant =
          some (EvidenceCalendar.proofOfHour payload ledger.settings.saltLength.toNat ledger.salts
            index) := by
    rw [isCalendar]
    exact EvidenceCalendar.proofAt?_generate
  have answers := answersFrom_of_found recorded (foundAt place)
  have otherAnswers := answersFrom_of_found recorded (foundAt otherPlace)
  refine ⟨_, _, answers.challengeSalt, otherAnswers.challengeSalt, ?_⟩
  intro noCollision
  rw [otherAnswers.confirm, Except.ok.injEq, decide_eq_decide]
  have noLength : ledger.settings.saltLength = 0 ↔ ledger.settings.saltLength.toNat = 0 :=
    UInt64.toNat_inj.symm
  rw [noLength, ← EvidenceCalendar.salt_proofOfHour_eq_iff neverRepeats inside otherInside]
  exact saltedDigest_eq_iff_salt_eq noCollision

/-- The ledger is restarted with other settings and salts, and another block is removed. -/
def restartedLater : List LedgerEvent :=
  [.restarted { saltLength := 0, maxWindowHours := 0 } (SaltStream.ofSeed 8),
    .removed (ContentId.ofContent [4])]

theorem answer_for_third_hour_fails_in_second :
    ∃ ledger id salt,
      ledger = (empty { saltLength := 4, maxWindowHours := 9 } (SaltStream.ofSeed 7)).run
        (.added ((Instant.of? 7500 0).get (by decide)) [1, 2, 3] [] (PeerId.ofByte 7)
          ((Instant.of? 20000 0).get (by decide)) :: restartedLater) ∧
      ledger.challengeSalt id ((Instant.of? 15000 0).get (by decide)) = .ok salt ∧
      ledger.confirm id ((Instant.of? 12000 0).get (by decide)) (saltedDigest salt [1, 2, 3]) =
        .ok false := by
  let before := empty { saltLength := 4, maxWindowHours := 9 } (SaltStream.ofSeed 7)
  let now : Instant := (Instant.of? 7500 0).get (by decide)
  let validUntil : Instant := (Instant.of? 20000 0).get (by decide)
  let added := LedgerEvent.added now [1, 2, 3] [] (PeerId.ofByte 7) validUntil
  let ledger := before.run (added :: restartedLater)
  let id := ContentId.ofContent [1, 2, 3]
  let asked : Instant := (Instant.of? 15000 0).get (by decide)
  let other : Instant := (Instant.of? 12000 0).get (by decide)
  have arises : before.Arises := .empty _ _
  have kept : ∀ since ∈ restartedLater, ¬ since.Drops id := by
    have otherId : ContentId.ofContent [4] ≠ ContentId.ofContent [1, 2, 3] := by decide +kernel
    simpa [restartedLater, LedgerEvent.Drops] using otherId
  have inTime : ¬ EvidenceCalendar.RunsOutOfTime now validUntil 9 :=
    fun late => absurd late.1 (by decide)
  have isNew : before.contains (ContentId.ofContent [1, 2, 3]) = false := rfl
  obtain ⟨entered, goesThrough⟩ :=
    (exists_register_eq_ok_iff isNew [] (PeerId.ofByte 7)).mpr inTime
  have isLedger : ledger =
      (before.add now [1, 2, 3] [] (PeerId.ofByte 7) validUntil).2.run restartedLater := by
    rw [← afterAddition_of_register_eq_ok goesThrough]
    exact run_cons before added restartedLater
  obtain ⟨record, recorded, answers⟩ :=
    answer_is_good_in_its_own_hour_or_without_salts arises isNew kept now []
      (PeerId.ofByte 7) validUntil
  rw [← isLedger] at recorded answers
  have calendarHas :
      (ledger.record? id).map (fun record =>
          (record.calendar.length, record.calendar.index? asked, record.calendar.index? other)) =
        some (4, some 2, some 1) := by
    decide +kernel
  rw [recorded, Option.map_some, Option.some.injEq, Prod.mk.injEq, Prod.mk.injEq] at calendarHas
  obtain ⟨hours, place, otherPlace⟩ := calendarHas
  have neverRepeats : before.salts.NeverRepeats 4 record.calendar.length := by
    rw [hours]
    decide +kernel
  obtain ⟨salt, otherSalt, isSalt, isOtherSalt, confirmed⟩ :=
    answers neverRepeats asked other 2 1 place otherPlace
  have salts :
      ledger.challengeSalt id asked = .ok [251, 181, 107, 143] ∧
        ledger.challengeSalt id other = .ok [68, 35, 103, 82] := by
    decide +kernel
  obtain rfl : salt = [251, 181, 107, 143] := Except.ok.inj (isSalt.symm.trans salts.1)
  obtain rfl : otherSalt = [68, 35, 103, 82] := Except.ok.inj (isOtherSalt.symm.trans salts.2)
  exact ⟨ledger, id, _, rfl, isSalt, confirmed (by decide +kernel)⟩

/-- Settings may ask for salts of no length. Then every hour has the same answer, and what a
holder worked out once is confirmed from then on. -/
theorem answer_without_salt_is_confirmed_an_hour_later :
    ∃ settings ledger record id asked other salt,
      Settings.ofText "\x7b\"proof\":\x7b\"salt_len\":0\x7d\x7d" = .ok settings ∧
      ledger = (empty settings.proof (SaltStream.ofSeed 7)).run
        [.added ((Instant.of? 7500 0).get (by decide)) [1, 2, 3] [] (PeerId.ofByte 7)
          ((Instant.of? 20000 0).get (by decide))] ∧
      (SaltStream.ofSeed 7).NeverRepeats settings.proof.saltLength.toNat 4 ∧
      ledger.record? id = some record ∧
      record.calendar.length = 4 ∧
      record.calendar.index? asked = some 0 ∧
      record.calendar.index? other = some 1 ∧
      ledger.challengeSalt id asked = .ok salt ∧
      ledger.confirm id other (saltedDigest salt [1, 2, 3]) = .ok true := by
  let settings : Settings :=
    { Settings.default with proof := { Settings.default.proof with saltLength := 0 } }
  let ledger := (empty settings.proof (SaltStream.ofSeed 7)).run
    [.added ((Instant.of? 7500 0).get (by decide)) [1, 2, 3] [] (PeerId.ofByte 7)
      ((Instant.of? 20000 0).get (by decide))]
  let id := ContentId.ofContent [1, 2, 3]
  let asked : Instant := (Instant.of? 7500 0).get (by decide)
  let other : Instant := (Instant.of? 11100 0).get (by decide)
  have isRecorded : (ledger.record? id).isSome = true := by decide +kernel
  obtain ⟨record, recorded⟩ := Option.isSome_iff_exists.mp isRecorded
  have calendarHas :
      (ledger.record? id).map (fun record =>
          (record.calendar.length, record.calendar.index? asked, record.calendar.index? other)) =
        some (4, some 0, some 1) := by
    decide +kernel
  rw [recorded, Option.map_some, Option.some.injEq, Prod.mk.injEq, Prod.mk.injEq] at calendarHas
  obtain ⟨hours, place, otherPlace⟩ := calendarHas
  exact ⟨settings, ledger, record, id, asked, other, [], by decide +kernel, rfl,
    by decide +kernel, recorded, hours, place, otherPlace, by decide +kernel, by decide +kernel⟩

end Ledger

end BlockCustody
