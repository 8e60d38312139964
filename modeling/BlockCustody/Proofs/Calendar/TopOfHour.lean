import BlockCustody.Proofs.Calendar.Hours

/-!
Contract: the hour of an instant by the clock and by elapsed time.

Owns:
- the top of the hour as the greatest full hour that is not later;
- hours between the tops of hours, and which leap seconds elapsed time puts into the
  next hour instead;
- when an instant some hours later is still representable.

Does not own: calendars and their places.
-/

namespace BlockCustody.Instant

open Calendar

/-- From a whole second on, hours can be added as long as seconds keep to the range. -/
theorem plusHours?_eq_none_iff
    {instant : Instant}
    (wholeSecond : instant.nanos = 0)
    {hours : Int} :
    instant.plusHours? hours = none ↔
      instant.seconds + hours * secondsPerHour < firstSecond ∨
        lastSecond < instant.seconds + hours * secondsPerHour := by
  rw [plusHours?_of_wholeSecond wholeSecond]
  unfold of?
  split
  · next valid =>
      simp only [reduceCtorEq, false_iff]
      omega
  · next invalid =>
      simp only [true_iff]
      have small : 0 < nanosPerSecond := by decide
      omega

/-! ## The top of the hour -/

@[simp]
theorem seconds_topOfHour (instant : Instant) :
    instant.topOfHour.seconds = instant.seconds - instant.seconds % secondsPerHour :=
  rfl

@[simp]
theorem nanos_topOfHour (instant : Instant) : instant.topOfHour.nanos = 0 :=
  rfl

/-- There is a top of the hour for every instant that is represented. -/
theorem of?_topOfHour (instant : Instant) :
    of? (instant.seconds - instant.seconds % secondsPerHour) 0 = some instant.topOfHour :=
  of?_eq_some_iff.mpr ⟨⟨rfl, rfl⟩, not_insideMinute_of_wholeSecond rfl⟩

theorem topOfHour_topOfHour (instant : Instant) :
    instant.topOfHour.topOfHour = instant.topOfHour := by
  simp only [topOfHour, secondsPerHour, mk.injEq, and_true]
  omega

theorem topOfHour_le (instant : Instant) : instant.topOfHour ≤ instant := by
  rw [le_iff, seconds_topOfHour, nanos_topOfHour, secondsPerHour]
  omega

/-! ## Hours by the clock and by elapsed time -/

/-- Hours from the hour of one instant to that of another, by the tops of both. -/
def hoursApart (start finish : Instant) : Int :=
  (finish.topOfHour.seconds - start.topOfHour.seconds) / secondsPerHour

/-- A leap second at the end of an hour whose time of day does not come before that of
the start. Elapsed time puts it into the next hour. -/
def RunsOver (start finish : Instant) : Prop :=
  nanosPerSecond ≤ finish.nanos ∧ finish.seconds % secondsPerHour = secondsPerHour - 1 ∧
    start.secondOfDay ≤ finish.secondOfDay

instance (start finish : Instant) : Decidable (RunsOver start finish) :=
  inferInstanceAs (Decidable (_ ∧ _))

theorem seconds_topOfHour_eq (start finish : Instant) :
    finish.topOfHour.seconds =
      start.topOfHour.seconds + hoursApart start finish * secondsPerHour := by
  rw [hoursApart, seconds_topOfHour, seconds_topOfHour, secondsPerHour]
  omega

theorem hoursApart_topOfHour (start finish : Instant) :
    hoursApart start.topOfHour finish = hoursApart start finish := by
  rw [hoursApart, topOfHour_topOfHour, hoursApart]

section FromTheHour

variable {start : Instant} (onTheHour : start.topOfHour = start)

include onTheHour

theorem seconds_mod_of_onTheHour : start.seconds % secondsPerHour = 0 := by
  rw [← onTheHour, seconds_topOfHour, secondsPerHour]
  omega

theorem nanos_of_onTheHour : start.nanos = 0 := by
  rw [← onTheHour]
  rfl

/-- No full hour lies between the top of an instant's hour and the instant. -/
theorem le_topOfHour_iff {instant : Instant} : start ≤ instant.topOfHour ↔ start ≤ instant := by
  have fullHour := seconds_mod_of_onTheHour onTheHour
  have wholeSecond := nanos_of_onTheHour onTheHour
  simp only [le_iff, seconds_topOfHour, nanos_topOfHour, secondsPerHour] at *
  omega

/-- Elapsed time and the clock agree on hours, but for leap seconds that run over. -/
theorem hoursBetween_eq_hoursApart {finish : Instant} (notEarlier : start ≤ finish) :
    hoursBetween start finish =
      hoursApart start finish + if RunsOver start finish then 1 else 0 := by
  have seconds := elapsedSeconds_eq (nanos_of_onTheHour onTheHour) notEarlier
  have fullHour := seconds_mod_of_onTheHour onTheHour
  simp only [hoursBetween, hoursApart, seconds_topOfHour, secondsPerHour] at *
  by_cases counted : nanosPerSecond ≤ finish.nanos ∧ start.secondOfDay ≤ finish.secondOfDay
  · rw [if_pos counted] at seconds
    by_cases endsHour : finish.seconds % 3600 = 3600 - 1
    · rw [if_pos ⟨counted.1, endsHour, counted.2⟩]
      omega
    · rw [if_neg fun runsOver => endsHour runsOver.2.1]
      omega
  · rw [if_neg counted] at seconds
    rw [if_neg fun runsOver => counted ⟨runsOver.1, runsOver.2.2⟩]
    omega

/-- As many hours after the start as there are by the clock, it is the top of the
instant's hour. -/
theorem plusHours?_hoursApart (finish : Instant) :
    start.plusHours? (hoursApart start finish) = some finish.topOfHour := by
  have tops := seconds_topOfHour_eq start finish
  rw [onTheHour] at tops
  have wholeSecond := nanos_of_onTheHour onTheHour
  exact (plusHours?_eq_some_iff wholeSecond).mpr ⟨tops, wholeSecond.symm⟩

theorem plusHours?_hoursApart_add_one (finish : Instant) :
    start.plusHours? (hoursApart start finish + 1) = finish.topOfHour.plusHours? 1 := by
  have tops := seconds_topOfHour_eq start finish
  rw [onTheHour] at tops
  have sameSecond :
      start.seconds + (hoursApart start finish + 1) * secondsPerHour =
        finish.topOfHour.seconds + 1 * secondsPerHour := by
    rw [tops, secondsPerHour]
    omega
  rw [plusHours?_of_wholeSecond (nanos_of_onTheHour onTheHour),
    plusHours?_of_wholeSecond (nanos_topOfHour finish), sameSecond]

/-- As many hours after the start as have elapsed, it is the top of the instant's hour,
or of the next hour for a leap second that runs over. -/
theorem plusHours?_hoursBetween {finish : Instant} (notEarlier : start ≤ finish) :
    start.plusHours? (hoursBetween start finish) =
      if RunsOver start finish then finish.topOfHour.plusHours? 1 else some finish.topOfHour := by
  rw [hoursBetween_eq_hoursApart onTheHour notEarlier]
  split
  · exact plusHours?_hoursApart_add_one onTheHour finish
  · rw [Int.add_zero]
    exact plusHours?_hoursApart onTheHour finish

theorem hoursApart_nonneg {finish : Instant} (notEarlier : start ≤ finish) :
    0 ≤ hoursApart start finish := by
  have ordered := le_iff.mp notEarlier
  have fullHour := seconds_mod_of_onTheHour onTheHour
  simp only [hoursApart, seconds_topOfHour, secondsPerHour] at *
  omega

theorem hoursApart_neg {finish : Instant} (earlier : finish.Before start) :
    hoursApart start finish < 0 := by
  have fullHour := seconds_mod_of_onTheHour onTheHour
  have wholeSecond := nanos_of_onTheHour onTheHour
  simp only [Before, hoursApart, seconds_topOfHour, secondsPerHour] at *
  omega

end FromTheHour

end BlockCustody.Instant
