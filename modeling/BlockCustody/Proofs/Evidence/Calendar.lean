import BlockCustody.Evidence.Calendar
import BlockCustody.Proofs.Calendar.TopOfHour

/-!
Contract: what calendars hold, and which instants they answer for.

Owns:
- the proofs that are drawn, each over the block's bytes and with the next salt;
- the places of a calendar as hours from its start;
- the hours that a fresh calendar covers.

Does not own: which block a calendar belongs to.
-/

namespace BlockCustody

/-- The expected answer is the salted digest of these bytes. -/
def HourlyProof.IsOver (proof : HourlyProof) (payload : Bytes) : Prop :=
  proof.expected = saltedDigest proof.salt payload

namespace EvidenceCalendar

/-! ## Drawing proofs -/

/-- The proof for an hour, salted from where the stream stands, behind the earlier hours. -/
def proofOfHour (payload : Bytes) (saltLength : Nat) (salts : SaltStream) (hour : Nat) :
    HourlyProof :=
  proofOf payload (salts.segment (salts.taken + hour * saltLength) saltLength)

theorem proofOfHour_draw (payload : Bytes) (saltLength : Nat) (salts : SaltStream) :
    proofOfHour payload saltLength (salts.draw saltLength).2 =
      proofOfHour payload saltLength salts ∘ Nat.succ := by
  funext hour
  have samePlace :
      salts.taken + saltLength + hour * saltLength = salts.taken + hour.succ * saltLength := by
    rw [Nat.succ_mul]
    omega
  rw [Function.comp_apply, proofOfHour, proofOfHour, ← samePlace]
  rfl

/-- Each hour takes the next segment of the stream, and nothing else is taken. -/
theorem drawProofs_eq
    (payload : Bytes)
    (saltLength count : Nat)
    (salts : SaltStream)
    (made : List HourlyProof) :
    drawProofs payload saltLength count salts made =
      (made.reverse ++ (List.range count).map (proofOfHour payload saltLength salts),
        (salts.draw (count * saltLength)).2) := by
  induction count generalizing salts made with
  | zero => simp [drawProofs, SaltStream.draw]
  | succ count inductionHypothesis =>
      have firstProof :
          proofOf payload (salts.draw saltLength).1 = proofOfHour payload saltLength salts 0 := by
        rw [proofOfHour, Nat.zero_mul, Nat.add_zero]
        rfl
      have sameEnd :
          ((salts.draw saltLength).2.draw (count * saltLength)).2 =
            (salts.draw ((count + 1) * saltLength)).2 := by
        simp only [SaltStream.draw, Nat.add_mul, Nat.one_mul, SaltStream.mk.injEq, true_and]
        omega
      have firstDrawn :
          drawProofs payload saltLength (count + 1) salts made =
            drawProofs payload saltLength count (salts.draw saltLength).2
              (proofOf payload (salts.draw saltLength).1 :: made) :=
        rfl
      rw [firstDrawn, inductionHypothesis, sameEnd, firstProof, List.range_succ_eq_map,
        List.map_cons, List.map_map, List.reverse_cons, List.append_assoc, List.singleton_append,
        proofOfHour_draw]

/-! ## Calendars made from bytes -/

/-- A calendar as it is made while a block's bytes are at hand: it begins at the top
of an hour, has an hour at least, and every answer it expects is over the bytes. -/
structure MadeFrom (calendar : EvidenceCalendar) (payload : Bytes) : Prop where
  onTheHour : calendar.start.topOfHour = calendar.start
  nonempty : calendar.proofs ≠ []
  isOver : ∀ proof ∈ calendar.proofs, proof.IsOver payload

theorem MadeFrom.wholeSecond {calendar : EvidenceCalendar} {payload : Bytes}
    (made : calendar.MadeFrom payload) : calendar.start.nanos = 0 :=
  Instant.nanos_of_onTheHour made.onTheHour

theorem MadeFrom.not_insideMinute {calendar : EvidenceCalendar} {payload : Bytes}
    (made : calendar.MadeFrom payload) : ¬ calendar.start.InsideMinute :=
  Instant.not_insideMinute_of_wholeSecond made.wholeSecond

section Generate

variable (payload : Bytes) (now validUntil : Instant) (maxHours saltLength : Nat)
variable (salts : SaltStream)

theorem generate_eq :
    generate payload now validUntil maxHours saltLength salts =
      ({ start := now.topOfHour
         proofs :=
          (List.range (spanHours now.topOfHour validUntil maxHours + 1)).map
            (proofOfHour payload saltLength salts) },
        (salts.draw ((spanHours now.topOfHour validUntil maxHours + 1) * saltLength)).2) := by
  rw [generate, drawProofs_eq]
  rfl

theorem length_generate :
    (generate payload now validUntil maxHours saltLength salts).1.length =
      spanHours now.topOfHour validUntil maxHours + 1 := by
  rw [generate_eq, EvidenceCalendar.length, List.length_map, List.length_range]

theorem generate_madeFrom :
    (generate payload now validUntil maxHours saltLength salts).1.MadeFrom payload where
  onTheHour := Instant.topOfHour_topOfHour now
  nonempty := by
    have length := length_generate payload now validUntil maxHours saltLength salts
    intro empty
    simp [EvidenceCalendar.length, empty] at length
  isOver := by
    intro proof drawn
    rw [generate_eq, List.mem_map] at drawn
    obtain ⟨hour, _, rfl⟩ := drawn
    rfl

end Generate

/-! ## Hours as places -/

variable {calendar : EvidenceCalendar} {instant : Instant}

theorem index?_eq_some_iff {index : Nat} :
    calendar.index? instant = some index ↔
      calendar.hourOf instant = index ∧ index < calendar.length := by
  simp only [index?]
  split
  · next outside =>
      constructor
      · intro impossible
        cases impossible
      · rintro ⟨isHour, inside⟩
        omega
  · next inside =>
      rw [Option.some.injEq]
      omega

theorem index?_eq_none_iff :
    calendar.index? instant = none ↔
      calendar.hourOf instant < 0 ∨ calendar.length ≤ calendar.hourOf instant := by
  simp only [index?]
  split
  · next outside => simp [outside]
  · next inside => simp [inside]

/-- There is a proof for exactly the instants that have a place. -/
theorem proofAt?_eq_none_iff :
    calendar.proofAt? instant = none ↔ calendar.index? instant = none := by
  unfold proofAt?
  cases place : calendar.index? instant with
  | none => simp
  | some index =>
      have inside := (index?_eq_some_iff.mp place).2
      have found : calendar.proof? index = some calendar.proofs[index] :=
        List.getElem?_eq_getElem inside
      simp [found]

theorem mem_of_proofAt? {proof : HourlyProof} (found : calendar.proofAt? instant = some proof) :
    proof ∈ calendar.proofs := by
  obtain ⟨index, _, isProof⟩ := Option.bind_eq_some_iff.mp found
  exact List.mem_of_getElem? isProof

theorem exists_proofAt?
    (notBefore : 0 ≤ calendar.hourOf instant)
    (notAfter : calendar.hourOf instant < calendar.length) :
    ∃ proof, calendar.proofAt? instant = some proof := by
  cases found : calendar.proofAt? instant with
  | some proof => exact ⟨proof, rfl⟩
  | none =>
      have outside := index?_eq_none_iff.mp (proofAt?_eq_none_iff.mp found)
      omega

theorem index?_mono
    {payload : Bytes}
    (made : calendar.MadeFrom payload)
    {first second : Instant}
    (ordered : first ≤ second)
    {firstIndex secondIndex : Nat}
    (isFirst : calendar.index? first = some firstIndex)
    (isSecond : calendar.index? second = some secondIndex) :
    firstIndex ≤ secondIndex := by
  have firstHour := (index?_eq_some_iff.mp isFirst).1
  have secondHour := (index?_eq_some_iff.mp isSecond).1
  simp only [hourOf] at firstHour secondHour
  by_cases notEarlier : calendar.start ≤ first
  · have hours := Instant.hoursBetween_mono made.wholeSecond notEarlier ordered
    omega
  · have earlier := Instant.before_of_not_le notEarlier
    have hours := Instant.hoursBetween_nonpos_of_before made.wholeSecond earlier
    omega

/-- From the end of the last hour on there are no places. -/
theorem index?_eq_none_of_finish
    {payload : Bytes}
    (made : calendar.MadeFrom payload)
    {finish : Instant}
    (isFinish : calendar.start.plusHours? calendar.length = some finish)
    (notEarlier : finish ≤ instant) :
    calendar.index? instant = none := by
  apply index?_eq_none_iff.mpr
  right
  exact Instant.le_hoursBetween_of_plusHours made.wholeSecond isFinish notEarlier

/-! ## The hours that a fresh calendar covers -/

/-- No instant of a window that keeps to the limit lies beyond the hours it spans. -/
theorem hoursBetween_le_spanHours
    {start validUntil : Instant}
    {maxHours : Nat}
    (wholeSecond : start.nanos = 0)
    (notEarlier : start ≤ instant)
    (notLater : instant ≤ validUntil)
    (keepsLimit : Instant.hoursBetween start validUntil ≤ maxHours) :
    Instant.hoursBetween start instant ≤ spanHours start validUntil maxHours := by
  have monotone := Instant.hoursBetween_mono wholeSecond notEarlier notLater
  rw [spanHours]
  omega

theorem spanHours_eq_of_limit
    {start validUntil : Instant}
    {maxHours : Nat}
    (reachesLimit : maxHours ≤ Instant.hoursBetween start validUntil) :
    spanHours start validUntil maxHours = maxHours := by
  rw [spanHours]
  omega

end EvidenceCalendar

end BlockCustody
