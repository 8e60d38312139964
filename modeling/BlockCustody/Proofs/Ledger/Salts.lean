import BlockCustody.Proofs.Ledger.Contents
import Mathlib.Algebra.Ring.Nat

/-!
Contract: which bytes of its stream a ledger salts each hour with.

Owns:
- the calendars that a history has made, those of blocks dropped since and of calls that
  failed included;
- the place in the stream of the salt for an hour of any of them;
- that no byte of the stream goes into two salts.

Does not own: streams that a restart brings in.
-/

namespace BlockCustody

/-- A calendar as it was made, and the bytes it was made over. -/
structure MadeCalendar where
  payload : Bytes
  calendar : EvidenceCalendar
deriving DecidableEq

namespace MadeCalendar

/-- How many hours several calendars have together. -/
def hours (made : List MadeCalendar) : Nat :=
  (made.map fun creation => creation.calendar.length).sum

/-- One of the calendars, by its number, has such an hour. -/
def HasHour (made : List MadeCalendar) (number hour : Nat) : Prop :=
  ∃ creation, made[number]? = some creation ∧ hour < creation.calendar.length

/-- Where in the stream the salt for an hour of one of the calendars begins: behind the
salts of the calendars made before, and of the earlier hours of its own. -/
def saltPlace (salts : SaltStream) (saltLength : Nat) (made : List MadeCalendar)
    (number hour : Nat) : Nat :=
  salts.taken + (hours (made.take number) + hour) * saltLength

theorem hours_append (earlier later : List MadeCalendar) :
    hours (earlier ++ later) = hours earlier + hours later := by
  rw [hours, List.map_append, List.sum_append]
  rfl

variable {salts : SaltStream} {saltLength : Nat} {made : List MadeCalendar}
variable {number hour other otherHour : Nat}

/-- The hours of a calendar come before those of any later one. -/
theorem hours_take_lt (isHour : HasHour made number hour) (earlier : number < other) :
    hours (made.take number) + hour < hours (made.take other) := by
  obtain ⟨creation, isCreation, inside⟩ := isHour
  obtain ⟨between, rfl⟩ := Nat.exists_eq_add_of_le (Nat.succ_le_of_lt earlier)
  have itsHours : hours [creation] = creation.calendar.length := by simp [hours]
  rw [List.take_add, List.take_add_one, isCreation, Option.toList_some, hours_append,
    hours_append, itsHours]
  omega

/-- Salts for different hours, of one calendar or of two, share no byte of the stream. -/
theorem saltPlace_disjoint
    (isHour : HasHour made number hour)
    (isOtherHour : HasHour made other otherHour)
    (distinct : (number, hour) ≠ (other, otherHour)) :
    saltPlace salts saltLength made number hour + saltLength ≤
        saltPlace salts saltLength made other otherHour ∨
      saltPlace salts saltLength made other otherHour + saltLength ≤
        saltPlace salts saltLength made number hour := by
  have inOrder : ∀ {first second : Nat}, first < second →
      salts.taken + first * saltLength + saltLength ≤ salts.taken + second * saltLength := by
    intro first second before
    have spans := Nat.mul_le_mul_right saltLength (Nat.succ_le_of_lt before)
    rw [Nat.succ_mul] at spans
    omega
  rcases Nat.lt_trichotomy number other with earlier | rfl | later
  · have before := hours_take_lt isHour earlier
    exact Or.inl (inOrder (by omega))
  · have otherThanHour : hour ≠ otherHour := fun same => distinct (same ▸ rfl)
    rcases Nat.lt_or_gt_of_ne otherThanHour with earlier | later
    · exact Or.inl (inOrder (by omega))
    · exact Or.inr (inOrder (by omega))
  · have before := hours_take_lt isOtherHour later
    exact Or.inr (inOrder (by omega))

end MadeCalendar

namespace Ledger

/-- The calendar that an event makes: a call that adds a block that is not there makes one,
even if it then fails. -/
def calendarMadeBy (ledger : Ledger) : LedgerEvent → Option MadeCalendar
  | .added now payload shards holder validUntil =>
      if ledger.contains (ContentId.ofContent payload) = true then none
      else
        some
          { payload
            calendar := (ledger.addedRecord now payload shards holder validUntil).calendar }
  | .removed _ => none
  | .keptOnly _ => none
  | .restarted _ _ => none

/-- The calendars that a history makes, in the order in which they are made. -/
def calendarsMade : Ledger → List LedgerEvent → List MadeCalendar
  | _, [] => []
  | ledger, event :: later =>
      (ledger.calendarMadeBy event).toList ++ (ledger.after event).calendarsMade later

open MadeCalendar

variable {ledger : Ledger} {event : LedgerEvent} {history : List LedgerEvent}
variable {id : BlockId} {record : BlockRecord}

/-! ## One event -/

theorem settings_after (goesOn : ¬ event.Restarts) :
    (ledger.after event).settings = ledger.settings := by
  cases event with
  | added now payload shards holder validUntil =>
      exact settings_afterAddition ledger now payload shards holder validUntil
  | removed gone => rfl
  | keptOnly live => rfl
  | restarted settings salts => exact absurd trivial goesOn

/-- As much is taken from the stream as the calendar that was made has salts. -/
theorem salts_after (goesOn : ¬ event.Restarts) :
    (ledger.after event).salts =
      (ledger.salts.draw
        (hours (ledger.calendarMadeBy event).toList * ledger.settings.saltLength.toNat)).2 := by
  cases event with
  | added now payload shards holder validUntil =>
      rw [after, salts_afterAddition]
      by_cases present : ledger.contains (ContentId.ofContent payload) = true
      · rw [add_of_contains _ _ _ _ _ _ present, calendarMadeBy, if_pos present]
        simp [hours, SaltStream.draw]
      · have absent : ¬ ledger.blocks.contains (ContentId.ofContent payload) = true := present
        rw [calendarMadeBy, if_neg present]
        simp [add, absent, hours, addedRecord, EvidenceCalendar.length,
          EvidenceCalendar.generate_eq]
  | removed gone => simp [after, remove, calendarMadeBy, hours, SaltStream.draw]
  | keptOnly live => simp [after, keepOnly, calendarMadeBy, hours, SaltStream.draw]
  | restarted settings salts => exact absurd trivial goesOn

/-- A calendar is salted with what comes next in the stream, one segment for an hour. -/
theorem proof_calendarMadeBy
    {creation : MadeCalendar}
    (isMade : ledger.calendarMadeBy event = some creation)
    {hour : Nat}
    {proof : HourlyProof}
    (found : creation.calendar.proofs[hour]? = some proof) :
    proof =
      EvidenceCalendar.proofOfHour creation.payload ledger.settings.saltLength.toNat
        ledger.salts hour := by
  cases event with
  | added now payload shards holder validUntil =>
      rw [calendarMadeBy] at isMade
      split at isMade
      · cases isMade
      · cases isMade
        simp only [addedRecord, EvidenceCalendar.generate_eq, List.getElem?_map,
          Option.map_eq_some_iff] at found
        obtain ⟨place, isPlace, rfl⟩ := found
        have isHour : place = hour := by
          obtain ⟨_, same⟩ := List.getElem?_eq_some_iff.mp isPlace
          rw [← same, List.getElem_range]
        rw [isHour]
  | removed gone => cases isMade
  | keptOnly live => cases isMade
  | restarted settings salts => cases isMade

/-- A record is from before an event, or the event made its calendar. -/
theorem record?_after_made
    (hasEvidence : ledger.HasEvidence)
    (goesOn : ¬ event.Restarts)
    (recorded : (ledger.after event).record? id = some record) :
    ledger.record? id = some record ∨
      ∃ creation, ledger.calendarMadeBy event = some creation ∧
        ContentId.ofContent creation.payload = id ∧ creation.calendar = record.calendar := by
  rcases record?_after_cases hasEvidence recorded with
    ⟨earlier, before, _, same⟩ | ⟨now, payload, shards, holder, validUntil, rfl, rfl, rfl⟩
  · rw [same goesOn]
    exact Or.inl before
  · rw [after, record?_afterAddition] at recorded
    split at recorded
    · next entered =>
        refine Or.inr ⟨_, if_neg ?_, rfl, rfl⟩
        rw [entered.1.2]
        exact Bool.false_ne_true
    · exact Or.inl recorded

/-! ## Histories -/

theorem calendarsMade_append_singleton (ledger : Ledger) (history : List LedgerEvent)
    (event : LedgerEvent) :
    ledger.calendarsMade (history ++ [event]) =
      ledger.calendarsMade history ++ ((ledger.run history).calendarMadeBy event).toList := by
  induction history generalizing ledger with
  | nil => simp [calendarsMade, run]
  | cons first others inductionHypothesis =>
      rw [List.cons_append, calendarsMade, calendarsMade, inductionHypothesis, List.append_assoc]
      rfl

theorem settings_run (goesOn : ∀ event ∈ history, ¬ event.Restarts) :
    (ledger.run history).settings = ledger.settings := by
  induction history using List.reverseRecOn with
  | nil => rfl
  | append_singleton history event inductionHypothesis =>
      simp only [List.mem_append, List.mem_singleton, or_imp, forall_and, forall_eq] at goesOn
      rw [run_append, ← inductionHypothesis goesOn.1]
      exact settings_after goesOn.2

/-- What a history takes from the stream is a salt for each hour of the calendars made. -/
theorem salts_run (goesOn : ∀ event ∈ history, ¬ event.Restarts) :
    (ledger.run history).salts =
      (ledger.salts.draw
        (hours (ledger.calendarsMade history) * ledger.settings.saltLength.toNat)).2 := by
  induction history using List.reverseRecOn with
  | nil => simp [run, calendarsMade, hours, SaltStream.draw]
  | append_singleton history event inductionHypothesis =>
      simp only [List.mem_append, List.mem_singleton, or_imp, forall_and, forall_eq] at goesOn
      have lastTaken := @salts_after (ledger.run history) event goesOn.2
      rw [inductionHypothesis goesOn.1, settings_run goesOn.1] at lastTaken
      rw [run_append, calendarsMade_append_singleton, hours_append, Nat.add_mul]
      refine lastTaken.trans ?_
      simp [SaltStream.draw, Nat.add_assoc]

/-- A calendar made in the course of a history was made before its last event, or by it. -/
theorem made_before_last_or_by_last
    {number : Nat}
    {creation : MadeCalendar}
    (isMade : (ledger.calendarsMade (history ++ [event]))[number]? = some creation) :
    (ledger.calendarsMade history)[number]? = some creation ∨
      number = (ledger.calendarsMade history).length ∧
        (ledger.run history).calendarMadeBy event = some creation := by
  rw [calendarsMade_append_singleton] at isMade
  by_cases earlier : number < (ledger.calendarsMade history).length
  · rw [List.getElem?_append_left earlier] at isMade
    exact Or.inl isMade
  · have behind := Nat.not_lt.mp earlier
    rw [List.getElem?_append_right behind] at isMade
    cases isLast : (ledger.run history).calendarMadeBy event with
    | none =>
        rw [isLast] at isMade
        cases isMade
    | some last =>
        rw [isLast, Option.toList_some, List.getElem?_singleton] at isMade
        split at isMade
        · next isNext =>
            cases isMade
            exact Or.inr ⟨by omega, rfl⟩
        · cases isMade

/-- Each hour of each calendar made has the salt at its own place in the stream. -/
theorem proof_calendarsMade
    (goesOn : ∀ event ∈ history, ¬ event.Restarts)
    {number : Nat}
    {creation : MadeCalendar}
    (isMade : (ledger.calendarsMade history)[number]? = some creation)
    {hour : Nat}
    {proof : HourlyProof}
    (found : creation.calendar.proofs[hour]? = some proof) :
    proof =
      EvidenceCalendar.proofOf creation.payload
        (ledger.salts.segment
          (saltPlace ledger.salts ledger.settings.saltLength.toNat
            (ledger.calendarsMade history) number hour)
          ledger.settings.saltLength.toNat) := by
  induction history using List.reverseRecOn with
  | nil => cases isMade
  | append_singleton history event inductionHypothesis =>
      simp only [List.mem_append, List.mem_singleton, or_imp, forall_and, forall_eq] at goesOn
      rw [calendarsMade_append_singleton]
      rcases made_before_last_or_by_last isMade with earlier | ⟨rfl, isLast⟩
      · obtain ⟨inside, _⟩ := List.getElem?_eq_some_iff.mp earlier
        rw [saltPlace, List.take_append_of_le_length (Nat.le_of_lt inside)]
        exact inductionHypothesis goesOn.1 earlier
      · -- Its salts come next in the stream as the calendars before it have left it.
        have lastProof := proof_calendarMadeBy isLast found
        rw [salts_run goesOn.1, settings_run goesOn.1] at lastProof
        rw [lastProof, saltPlace, List.take_left, EvidenceCalendar.proofOfHour, Nat.add_mul,
          ← Nat.add_assoc]
        rfl

/-- Every calendar of the ledger was made in the course of its history. -/
theorem calendar_made_of_recorded
    (hasEvidence : ledger.HasEvidence)
    (goesOn : ∀ event ∈ history, ¬ event.Restarts)
    (recorded : (ledger.run history).record? id = some record) :
    ledger.record? id = some record ∨
      ∃ creation ∈ ledger.calendarsMade history,
        ContentId.ofContent creation.payload = id ∧ creation.calendar = record.calendar := by
  induction history generalizing ledger with
  | nil => exact Or.inl recorded
  | cons event later inductionHypothesis =>
      rw [List.forall_mem_cons] at goesOn
      rcases inductionHypothesis (hasEvidence.after event) goesOn.2 recorded with
        before | ⟨creation, isMade, isId, isCalendar⟩
      · rcases record?_after_made hasEvidence goesOn.1 before with
          atFirst | ⟨creation, isMade, isId, isCalendar⟩
        · exact Or.inl atFirst
        · refine Or.inr ⟨creation, ?_, isId, isCalendar⟩
          rw [calendarsMade, isMade]
          exact List.mem_cons_self
      · refine Or.inr ⟨creation, ?_, isId, isCalendar⟩
        rw [calendarsMade]
        exact List.mem_append_right _ isMade

/-- A ledger that draws from one stream, after any history of additions and removals. The
calendars ever made are salted with consecutive segments of the stream in the order in
which they were made: each hour has a segment to itself, and expects the digest of its block
under it. That is all that was taken. A call for a block that is there takes nothing; any
other makes one more calendar, which the block gets if the call goes through. -/
theorem each_hour_ever_made_has_salt_of_its_own
    (settings : ProofSettings)
    (salts : SaltStream)
    {history : List LedgerEvent}
    (goesOn : ∀ event ∈ history, ¬ event.Restarts) :
    let ledger := (empty settings salts).run history
    let made := (empty settings salts).calendarsMade history
    let saltLength := settings.saltLength.toNat
    let place := saltPlace salts saltLength made
    (∀ number creation, made[number]? = some creation →
      ∀ hour proof, creation.calendar.proofs[hour]? = some proof →
        proof.salt = salts.segment (place number hour) saltLength ∧
          proof.expected =
            saltedDigest (salts.segment (place number hour) saltLength) creation.payload) ∧
      (∀ number hour other otherHour,
        HasHour made number hour → HasHour made other otherHour →
          (number, hour) ≠ (other, otherHour) →
            place number hour + saltLength ≤ place other otherHour ∨
              place other otherHour + saltLength ≤ place number hour) ∧
      ledger.salts = (salts.draw (hours made * saltLength)).2 ∧
      (∀ id record, ledger.record? id = some record →
        ∃ creation ∈ made,
          ContentId.ofContent creation.payload = id ∧ creation.calendar = record.calendar) ∧
      ∀ now payload shards holder validUntil,
        let id := ContentId.ofContent payload
        let addition := LedgerEvent.added now payload shards holder validUntil
        let call := ledger.register now payload shards holder validUntil
        let madeWithAddition := (empty settings salts).calendarsMade (history ++ [addition])
        (ledger.contains id = true → call = .ok (id, ledger) ∧ madeWithAddition = made) ∧
        (ledger.contains id = false →
          ∃ calendar,
            madeWithAddition = made ++ [{ payload, calendar := calendar }] ∧
              (∀ later, call = .ok (id, later) →
                ∃ record, later.record? id = some record ∧ record.calendar = calendar) ∧
              ∀ fault, call = .error fault → (ledger.after addition).blocks = ledger.blocks) := by
  intro ledger made saltLength place
  have hasEvidence := (empty_madeFrom settings salts).hasEvidence
  refine ⟨?_, ?_, salts_run goesOn, ?_, ?_⟩
  · intro number creation isMade hour proof found
    rw [proof_calendarsMade goesOn isMade found]
    exact ⟨rfl, rfl⟩
  · intro number hour other otherHour isHour isOtherHour distinct
    exact saltPlace_disjoint isHour isOtherHour distinct
  · intro id record recorded
    rcases calendar_made_of_recorded hasEvidence goesOn recorded with atFirst | isMade
    · cases atFirst
    · exact isMade
  · intro now payload shards holder validUntil id addition call madeWithAddition
    have madeLast : madeWithAddition = made ++ (ledger.calendarMadeBy addition).toList :=
      calendarsMade_append_singleton _ history addition
    constructor
    · intro present
      rw [madeLast, calendarMadeBy, if_pos present, Option.toList_none, List.append_nil]
      exact ⟨register_of_contains _ _ _ _ _ _ present, rfl⟩
    · intro absent
      refine ⟨(ledger.addedRecord now payload shards holder validUntil).calendar, ?_, ?_, ?_⟩
      · rw [madeLast, calendarMadeBy, if_neg (by rw [absent]; exact Bool.false_ne_true)]
        rfl
      · intro later goesThrough
        have recorded := record?_add ledger now payload shards holder validUntil id
        rw [if_pos ⟨rfl, absent⟩, ← add_of_register_eq_ok goesThrough] at recorded
        exact ⟨_, recorded, rfl⟩
      · intro fault fails
        exact blocks_afterAddition_of_register_eq_error fails

/-- A block is registered, removed, and registered again with another peer. -/
def registeredAgain (payload : Bytes) (now validUntil : Instant) : List LedgerEvent :=
  [.added now payload [] (.ofByte 1) validUntil, .removed (ContentId.ofContent payload),
    .added now payload [] (.ofByte 2) validUntil]

theorem block_registered_again_is_salted_anew :
    ∃ payload now validUntil creation proof,
      let salts := SaltStream.ofSeed 7
      let made :=
        (empty { saltLength := 4, maxWindowHours := 9 } salts).calendarsMade
          (registeredAgain payload now validUntil)
      made[1]? = some creation ∧
        creation.calendar.proofs[0]? = some proof ∧
        proof.salt = salts.segment 8 4 ∧
        proof.expected = saltedDigest (salts.segment 8 4) payload ∧
        HasHour made 0 1 ∧
        (saltPlace salts 4 made 0 1 + 4 ≤ 8 ∨ 8 + 4 ≤ saltPlace salts 4 made 0 1) := by
  let payload : Bytes := [1, 2, 3]
  let now : Instant := (Instant.of? 3600 0).get (by decide)
  let validUntil : Instant := (Instant.of? 7200 0).get (by decide)
  let salts := SaltStream.ofSeed 7
  let history := registeredAgain payload now validUntil
  let made := (empty { saltLength := 4, maxWindowHours := 9 } salts).calendarsMade history
  have goesOn : ∀ event ∈ history, ¬ event.Restarts := by
    simp [history, registeredAgain, LedgerEvent.Restarts]
  obtain ⟨proofs, disjoint, _⟩ :=
    each_hour_ever_made_has_salt_of_its_own { saltLength := 4, maxWindowHours := 9 } salts goesOn
  have hasHour : ∀ {number hour : Nat},
      (made[number]?.elim false fun creation => hour < creation.calendar.length) = true →
        HasHour made number hour := by
    intro number hour isHour
    cases isMade : made[number]? with
    | none => simp [isMade] at isHour
    | some creation => exact ⟨creation, isMade, by simpa [isMade] using isHour⟩
  have secondHour : HasHour made 0 1 := hasHour (by decide +kernel)
  have anew : HasHour made 1 0 := hasHour (by decide +kernel)
  have isPlace : saltPlace salts 4 made 1 0 = 8 := by decide +kernel
  have apart := disjoint 0 1 1 0 secondHour anew (by decide)
  obtain ⟨creation, isMade, inside⟩ := anew
  have found := List.getElem?_eq_getElem inside
  have isSalted := proofs 1 creation isMade 0 _ found
  have isOver : creation.payload = payload := by
    have overPayload : made[1]?.map MadeCalendar.payload = some payload := by decide +kernel
    rw [isMade] at overPayload
    exact Option.some.inj overPayload
  rw [isOver] at isSalted
  refine ⟨payload, now, validUntil, creation, _, isMade, found, ?_, ?_, secondHour, ?_⟩
  all_goals rw [← isPlace]
  · exact isSalted.1
  · exact isSalted.2
  · exact apart

end Ledger

end BlockCustody
