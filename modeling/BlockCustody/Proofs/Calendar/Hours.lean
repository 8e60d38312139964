import BlockCustody.Calendar.Instant

/-!
Contract: the hours between instants, exactly.

Owns:
- the order of instants, and what elapsed time says about it;
- which instants are represented;
- how whole seconds and hours come out of elapsed nanoseconds on either side of
  zero, and where a dropped fraction moves an instant into a later hour;
- that hours from the top of an hour never decrease.

Does not own: what is asked or answered in an hour.
-/

namespace BlockCustody.Instant

open Calendar

/-! ## The order of instants -/

/-- Not before. -/
instance : LE Instant where
  le earlier later := ¬ later.Before earlier

theorem le_iff {earlier later : Instant} :
    earlier ≤ later ↔
      earlier.seconds < later.seconds ∨
        earlier.seconds = later.seconds ∧ earlier.nanos ≤ later.nanos := by
  show ¬ (later.seconds < earlier.seconds ∨
    later.seconds = earlier.seconds ∧ later.nanos < earlier.nanos) ↔ _
  omega

instance (earlier later : Instant) : Decidable (earlier ≤ later) :=
  inferInstanceAs (Decidable (¬ later.Before earlier))

theorem before_of_not_le {earlier later : Instant} (notLater : ¬ earlier ≤ later) :
    later.Before earlier :=
  Decidable.not_not.mp notLater

/-! ## Representable instants -/

theorem not_insideMinute_of_wholeSecond {instant : Instant} (wholeSecond : instant.nanos = 0) :
    ¬ instant.InsideMinute := by
  rintro ⟨isLeap, _⟩
  rw [wholeSecond] at isLeap
  exact absurd isLeap (by decide)

/-- Every instant is made from its own seconds and nanoseconds, but for leap seconds
inside a minute. -/
theorem of?_eq_some_iff {seconds : Int} {nanos : Nat} {instant : Instant} :
    of? seconds nanos = some instant ↔
      (instant.seconds = seconds ∧ instant.nanos = nanos) ∧ ¬ instant.InsideMinute := by
  unfold of? InsideMinute
  split
  · next valid =>
      rw [Option.some.injEq]
      constructor
      · rintro rfl
        refine ⟨⟨rfl, rfl⟩, ?_⟩
        rintro ⟨isLeap, insideMinute⟩
        exact valid.2.elim (Nat.not_lt.mpr isLeap) fun endsMinute => insideMinute endsMinute.2
      · rintro ⟨⟨rfl, rfl⟩, _⟩
        rfl
  · next invalid =>
      constructor
      · intro impossible
        cases impossible
      · rintro ⟨⟨rfl, rfl⟩, notInside⟩
        have fit := instant.nanosFit
        exact absurd ⟨instant.inRange, by omega⟩ invalid

theorem plusHours?_of_wholeSecond
    {instant : Instant}
    (wholeSecond : instant.nanos = 0)
    (hours : Int) :
    instant.plusHours? hours = of? (instant.seconds + hours * secondsPerHour) 0 := by
  have noLeap : instant.nanos < nanosPerSecond := by
    rw [wholeSecond]
    decide
  rw [plusHours?, if_pos noLeap, wholeSecond]

theorem plusHours?_eq_some_iff
    {instant later : Instant}
    (wholeSecond : instant.nanos = 0)
    {hours : Int} :
    instant.plusHours? hours = some later ↔
      later.seconds = instant.seconds + hours * secondsPerHour ∧ later.nanos = instant.nanos := by
  rw [plusHours?_of_wholeSecond wholeSecond, of?_eq_some_iff, wholeSecond, and_iff_left_of_imp]
  rintro ⟨_, isWhole⟩
  exact not_insideMinute_of_wholeSecond isWhole

/-! ## Whole seconds and hours of elapsed time -/

/-- Hours between two instants with nothing dropped before the division. -/
def exactHours (start finish : Instant) : Int :=
  elapsedNanos start finish / (secondsPerHour * nanosPerSecond)

/-- The last second before an hour, seen from a later start: dropping the fraction
rounds it up to the hour. -/
def RoundsUp (start finish : Instant) : Prop :=
  elapsedNanos start finish < 0 ∧
    (secondsPerHour - 1) * nanosPerSecond <
      elapsedNanos start finish % (secondsPerHour * nanosPerSecond)

instance (start finish : Instant) : Decidable (RoundsUp start finish) :=
  inferInstanceAs (Decidable (_ ∧ _))

/-- Whole seconds are rounded toward the start, from either side. -/
theorem elapsedSeconds_bounds (start finish : Instant) :
    0 ≤ elapsedNanos start finish ∧
        elapsedSeconds start finish * nanosPerSecond ≤ elapsedNanos start finish ∧
        elapsedNanos start finish < (elapsedSeconds start finish + 1) * nanosPerSecond ∨
      elapsedNanos start finish < 0 ∧
        elapsedNanos start finish ≤ elapsedSeconds start finish * nanosPerSecond ∧
        (elapsedSeconds start finish - 1) * nanosPerSecond < elapsedNanos start finish := by
  unfold elapsedSeconds
  by_cases forward : 0 ≤ elapsedNanos start finish
  · left
    rw [Int.tdiv_eq_ediv_of_nonneg forward]
    simp only [nanosPerSecond]
    omega
  · right
    have opposite : 0 ≤ -elapsedNanos start finish := by omega
    have divided :
        (elapsedNanos start finish).tdiv nanosPerSecond =
          -(-elapsedNanos start finish / nanosPerSecond) := by
      rw [← Int.tdiv_eq_ediv_of_nonneg opposite, Int.neg_tdiv, Int.neg_neg]
    rw [divided]
    simp only [nanosPerSecond]
    omega

/-- Hours are exact but for the last second before an hour on the far side of the
start, which counts for the hour after it. -/
theorem hoursBetween_eq (start finish : Instant) :
    hoursBetween start finish =
      exactHours start finish + if RoundsUp start finish then 1 else 0 := by
  have bounds := elapsedSeconds_bounds start finish
  by_cases roundsUp : RoundsUp start finish
  · rw [if_pos roundsUp]
    simp only [hoursBetween, exactHours, RoundsUp, secondsPerHour, nanosPerSecond] at *
    omega
  · rw [if_neg roundsUp]
    simp only [hoursBetween, exactHours, RoundsUp, secondsPerHour, nanosPerSecond] at *
    omega

/-- Hours are negative up to a whole second before the start. -/
theorem hoursBetween_neg_iff (start finish : Instant) :
    hoursBetween start finish < 0 ↔ elapsedNanos start finish ≤ -nanosPerSecond := by
  have bounds := elapsedSeconds_bounds start finish
  simp only [hoursBetween, secondsPerHour, nanosPerSecond] at *
  omega

/-! ## Hours from a whole second -/

section FromWholeSecond

variable {start : Instant} (wholeSecond : start.nanos = 0)

include wholeSecond

/-- A leap second is taken away where its time of day comes before the start's. -/
theorem leapAdjustment_of_wholeSecond (finish : Instant) :
    (finish.secondOfDay < start.secondOfDay ∧ nanosPerSecond ≤ finish.nanos) ∧
        leapAdjustment start finish = -1 ∨
      ¬ (finish.secondOfDay < start.secondOfDay ∧ nanosPerSecond ≤ finish.nanos) ∧
        leapAdjustment start finish = 0 := by
  have noLeapStart : ¬ (start.secondOfDay < finish.secondOfDay ∧ nanosPerSecond ≤ start.nanos) := by
    rw [wholeSecond]
    exact fun impossible => absurd impossible.2 (by decide)
  rw [leapAdjustment, if_neg noLeapStart]
  by_cases takenAway : finish.secondOfDay < start.secondOfDay ∧ nanosPerSecond ≤ finish.nanos
  · exact Or.inl ⟨takenAway, if_pos takenAway⟩
  · exact Or.inr ⟨takenAway, if_neg takenAway⟩

/-- From a whole second on, whole seconds are the difference of the two counts, and one
more inside a leap second whose time of day does not come before the start's. -/
theorem elapsedSeconds_eq {finish : Instant} (notEarlier : start ≤ finish) :
    elapsedSeconds start finish =
      finish.seconds - start.seconds +
        if nanosPerSecond ≤ finish.nanos ∧ start.secondOfDay ≤ finish.secondOfDay then 1
        else 0 := by
  have ordered := le_iff.mp notEarlier
  have adjustment := leapAdjustment_of_wholeSecond wholeSecond finish
  have fits := finish.nanosFit
  have bounds := elapsedSeconds_bounds start finish
  by_cases counted : nanosPerSecond ≤ finish.nanos ∧ start.secondOfDay ≤ finish.secondOfDay
  · rw [if_pos counted]
    simp only [elapsedNanos, secondOfDay, secondsPerDay, nanosPerSecond] at *
    omega
  · rw [if_neg counted]
    simp only [elapsedNanos, secondOfDay, secondsPerDay, nanosPerSecond] at *
    omega

theorem hoursBetween_nonneg_of_le {finish : Instant} (notEarlier : start ≤ finish) :
    0 ≤ hoursBetween start finish := by
  have ordered := le_iff.mp notEarlier
  rw [hoursBetween, elapsedSeconds_eq wholeSecond notEarlier, secondsPerHour]
  split <;> omega

/-- Before a whole second no hour has passed, not even by a leap second. -/
theorem hoursBetween_nonpos_of_before {finish : Instant} (earlier : finish.Before start) :
    hoursBetween start finish ≤ 0 := by
  have adjustment := leapAdjustment_of_wholeSecond wholeSecond finish
  have fits := finish.nanosFit
  have bounds := elapsedSeconds_bounds start finish
  simp only [Before, hoursBetween, elapsedNanos, secondsPerHour, nanosPerSecond] at *
  omega

/-- The same second holds a leap second for the later of two instants if it does for
the earlier, so whole seconds never decrease. -/
theorem elapsedSeconds_mono
    {first second : Instant}
    (notEarlier : start ≤ first)
    (ordered : first ≤ second) :
    elapsedSeconds start first ≤ elapsedSeconds start second := by
  have startOrder := le_iff.mp notEarlier
  have order := le_iff.mp ordered
  have secondNotEarlier : start ≤ second := by
    apply le_iff.mpr
    omega
  rw [elapsedSeconds_eq wholeSecond notEarlier, elapsedSeconds_eq wholeSecond secondNotEarlier]
  rcases order with earlierSecond | ⟨sameSecond, fewerNanos⟩
  · split <;> split <;> omega
  · have sameTimeOfDay : first.secondOfDay = second.secondOfDay := by
      rw [secondOfDay, secondOfDay, sameSecond]
    rw [sameSecond, sameTimeOfDay]
    split <;> split <;> omega

/-- Later instants do not lie in earlier hours. -/
theorem hoursBetween_mono
    {first second : Instant}
    (notEarlier : start ≤ first)
    (ordered : first ≤ second) :
    hoursBetween start first ≤ hoursBetween start second :=
  Int.ediv_le_ediv (by decide) (elapsedSeconds_mono wholeSecond notEarlier ordered)

theorem le_hoursBetween_of_plusHours
    {finish later : Instant}
    {hours : Nat}
    (isFinish : start.plusHours? hours = some finish)
    (notEarlier : finish ≤ later) :
    hours ≤ hoursBetween start later := by
  have order := le_iff.mp notEarlier
  have isLater := ((plusHours?_eq_some_iff wholeSecond).mp isFinish).1
  have laterNotEarlier : start ≤ later := by
    apply le_iff.mpr
    simp only [secondsPerHour] at isLater
    omega
  rw [hoursBetween, elapsedSeconds_eq wholeSecond laterNotEarlier]
  simp only [secondsPerHour] at *
  split <;> omega

end FromWholeSecond

end BlockCustody.Instant
