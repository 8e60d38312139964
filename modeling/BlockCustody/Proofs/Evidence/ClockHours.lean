import BlockCustody.Proofs.Evidence.Calendar

/-!
Contract: the hours of a calendar and the hours of the clock.

Owns:
- where the last hour of a fresh calendar starts, and when that is not an instant;
- that places are hours of the clock, but for leap seconds that run over;
- that a calendar falls short exactly if the limit stops it before validity ends.

Does not own: what is asked in an hour.
-/

namespace BlockCustody.EvidenceCalendar

open Calendar
open Instant (RunsOver hoursApart)

/-! ## The span of a fresh calendar -/

section Span

variable {start validUntil : Instant} (onTheHour : start.topOfHour = start) (maxHours : Nat)

include onTheHour

/-- A calendar spans the hours by the clock, one more if validity ends in a leap second that
runs over, but no more than the limit and none if validity has ended. -/
theorem spanHours_cases :
    start ≤ validUntil ∧
        (spanHours start validUntil maxHours : Int) =
          min (hoursApart start validUntil + if RunsOver start validUntil then 1 else 0)
            maxHours ∨
      validUntil.Before start ∧ spanHours start validUntil maxHours = 0 := by
  by_cases notEarlier : start ≤ validUntil
  · left
    have hours := Instant.hoursBetween_eq_hoursApart onTheHour notEarlier
    have nonneg :=
      Instant.hoursBetween_nonneg_of_le (Instant.nanos_of_onTheHour onTheHour) notEarlier
    refine ⟨notEarlier, ?_⟩
    rw [← hours, spanHours]
    omega
  · right
    have earlier := Instant.before_of_not_le notEarlier
    have nonpos :=
      Instant.hoursBetween_nonpos_of_before (Instant.nanos_of_onTheHour onTheHour) earlier
    refine ⟨earlier, ?_⟩
    rw [spanHours]
    omega

theorem spanHours_lt_hoursApart_iff :
    (spanHours start validUntil maxHours : Int) < hoursApart start validUntil ↔
      maxHours < hoursApart start validUntil := by
  rcases spanHours_cases onTheHour maxHours with ⟨_, isSpan⟩ | ⟨earlier, isSpan⟩
  · rw [isSpan]
    split <;> omega
  · have negative := Instant.hoursApart_neg onTheHour earlier
    rw [isSpan]
    omega

end Span

/-- Validity ends in the leap second with which time ends, and the limit does not stop a
calendar that starts now before that. -/
def RunsOutOfTime (now validUntil : Instant) (maxHours : Nat) : Prop :=
  validUntil.seconds = lastSecond ∧ nanosPerSecond ≤ validUntil.nanos ∧
    lastSecond < now.topOfHour.seconds + maxHours * secondsPerHour

instance (now validUntil : Instant) (maxHours : Nat) :
    Decidable (RunsOutOfTime now validUntil maxHours) :=
  inferInstanceAs (Decidable (_ ∧ _))

/-- The last hour goes beyond representable time only from the last leap second. -/
theorem lastSecond_lt_iff (now validUntil : Instant) (maxHours : Nat) :
    lastSecond <
        now.topOfHour.seconds + spanHours now.topOfHour validUntil maxHours * secondsPerHour ↔
      RunsOutOfTime now validUntil maxHours := by
  have onTheHour := Instant.topOfHour_topOfHour now
  have tops := Instant.seconds_topOfHour_eq now.topOfHour validUntil
  have nowInRange := now.topOfHour.inRange
  have untilInRange := validUntil.inRange
  rw [onTheHour] at tops
  rcases spanHours_cases onTheHour maxHours with ⟨notEarlier, isSpan⟩ | ⟨earlier, isSpan⟩
  · rw [isSpan]
    have ordered := Instant.le_iff.mp notEarlier
    by_cases runsOver : RunsOver now.topOfHour validUntil
    · rw [if_pos runsOver]
      simp only [RunsOver, RunsOutOfTime, Instant.seconds_topOfHour, secondsPerHour,
        nanosPerSecond, firstSecond, lastSecond] at *
      omega
    · rw [if_neg runsOver]
      simp only [RunsOver, RunsOutOfTime, Instant.seconds_topOfHour, Instant.secondOfDay,
        secondsPerHour, secondsPerDay, nanosPerSecond, firstSecond, lastSecond] at *
      omega
  · rw [isSpan]
    simp only [Instant.Before, RunsOutOfTime, Instant.seconds_topOfHour, secondsPerHour,
      firstSecond, lastSecond] at *
    omega

/-! ## Last hours -/

section Generate

variable (payload : Bytes) (now validUntil : Instant) (maxHours saltLength : Nat)
variable (salts : SaltStream)

theorem lastHour?_generate :
    (generate payload now validUntil maxHours saltLength salts).1.lastHour? =
      now.topOfHour.plusHours? (spanHours now.topOfHour validUntil maxHours) := by
  have isLength := length_generate payload now validUntil maxHours saltLength salts
  have lastPlace :
      ((generate payload now validUntil maxHours saltLength salts).1.length : Int) - 1 =
        spanHours now.topOfHour validUntil maxHours := by
    omega
  rw [lastHour?, lastPlace]
  rfl

theorem lastHour?_generate_eq_none_iff :
    (generate payload now validUntil maxHours saltLength salts).1.lastHour? = none ↔
      RunsOutOfTime now validUntil maxHours := by
  have nowInRange := now.topOfHour.inRange
  rw [lastHour?_generate, Instant.plusHours?_eq_none_iff (Instant.nanos_topOfHour now),
    ← lastSecond_lt_iff]
  constructor
  · rintro (early | late)
    · simp only [secondsPerHour] at early
      omega
    · exact late
  · exact Or.inr

/-- The last hour, if there is one, starts as many hours after the first as the calendar
has further hours. -/
theorem seconds_lastHour?_generate :
    (generate payload now validUntil maxHours saltLength salts).1.lastHour?.map
        (fun last => (last.seconds, last.nanos)) =
      if RunsOutOfTime now validUntil maxHours then none
      else
        some
          (now.topOfHour.seconds + spanHours now.topOfHour validUntil maxHours * secondsPerHour,
            0) := by
  have noLastHour :=
    lastHour?_generate_eq_none_iff payload now validUntil maxHours saltLength salts
  cases isLast : (generate payload now validUntil maxHours saltLength salts).1.lastHour? with
  | none =>
      rw [if_pos (noLastHour.mp isLast)]
      rfl
  | some last =>
      have inTime : ¬ RunsOutOfTime now validUntil maxHours := by
        intro runsOut
        rw [noLastHour.mpr runsOut] at isLast
        cases isLast
      rw [lastHour?_generate] at isLast
      obtain ⟨isSecond, isNano⟩ := (Instant.plusHours?_eq_some_iff rfl).mp isLast
      rw [if_neg inTime, Option.map_some, isSecond, isNano, Instant.nanos_topOfHour]

/-- The last hour of a calendar that keeps to the limit is that in which validity ends, or
the next one if validity ends in a leap second that runs over and the limit allows it. -/
theorem lastHour?_of_within
    (notEarlier : now.topOfHour ≤ validUntil)
    (keepsLimit : hoursApart now validUntil ≤ maxHours) :
    (generate payload now validUntil maxHours saltLength salts).1.lastHour? =
      if RunsOver now.topOfHour validUntil ∧ hoursApart now validUntil < maxHours then
        validUntil.topOfHour.plusHours? 1
      else some validUntil.topOfHour := by
  have onTheHour := Instant.topOfHour_topOfHour now
  have sameApart := Instant.hoursApart_topOfHour now validUntil
  rw [lastHour?_generate]
  rcases spanHours_cases onTheHour maxHours with ⟨_, isSpan⟩ | ⟨earlier, _⟩
  · rw [sameApart] at isSpan
    split
    · next overLimit =>
        have oneMore :
            (spanHours now.topOfHour validUntil maxHours : Int) =
              hoursApart now.topOfHour validUntil + 1 := by
          rw [isSpan, sameApart, if_pos overLimit.1]
          omega
        rw [oneMore]
        exact Instant.plusHours?_hoursApart_add_one onTheHour validUntil
    · next inLimit =>
        have exact :
            (spanHours now.topOfHour validUntil maxHours : Int) =
              hoursApart now.topOfHour validUntil := by
          rw [isSpan, sameApart]
          split
          · next runsOver =>
              have atLimit : ¬ hoursApart now validUntil < maxHours :=
                fun below => inLimit ⟨runsOver, below⟩
              omega
          · omega
        rw [exact]
        exact Instant.plusHours?_hoursApart onTheHour validUntil
  · exact absurd earlier notEarlier

/-- Challenges stop too early exactly if the limit is less than the hours by the clock. -/
theorem fallsShort_generate_iff :
    (generate payload now validUntil maxHours saltLength salts).1.fallsShort validUntil = true ↔
      maxHours < hoursApart now validUntil := by
  have onTheHour := Instant.topOfHour_topOfHour now
  have tops := Instant.seconds_topOfHour_eq now validUntil
  have sameApart := Instant.hoursApart_topOfHour now validUntil
  have shorter :
      (spanHours now.topOfHour validUntil maxHours : Int) < hoursApart now.topOfHour validUntil ↔
        maxHours < hoursApart now.topOfHour validUntil :=
    spanHours_lt_hoursApart_iff onTheHour maxHours
  have untilInRange := validUntil.topOfHour.inRange
  rw [sameApart] at shorter
  rw [← shorter, fallsShort, lastHour?_generate]
  split
  · next last isLast =>
      obtain ⟨isSecond, isNano⟩ := (Instant.plusHours?_eq_some_iff rfl).mp isLast
      rw [decide_eq_true_iff, Instant.Before, isSecond, isNano, tops, Instant.nanos_topOfHour,
        Instant.nanos_topOfHour, secondsPerHour]
      omega
  · next noHour =>
      have nowInRange := now.topOfHour.inRange
      have outside := (Instant.plusHours?_eq_none_iff (Instant.nanos_topOfHour now)).mp noHour
      simp only [secondsPerHour, Bool.false_eq_true, false_iff] at *
      omega

end Generate

/-! ## Places -/

section Places

variable {calendar : EvidenceCalendar} (onTheHour : calendar.start.topOfHour = calendar.start)

include onTheHour

/-- A place is the hour of the clock that its instant lies in, or the next one for a leap
second that runs over. -/
theorem plusHours?_of_index?
    {instant : Instant}
    {place : Nat}
    (notEarlier : calendar.start ≤ instant)
    (isPlace : calendar.index? instant = some place) :
    calendar.start.plusHours? place =
      if RunsOver calendar.start instant then instant.topOfHour.plusHours? 1
      else some instant.topOfHour := by
  have isHour := (index?_eq_some_iff.mp isPlace).1
  rw [← isHour, hourOf]
  exact Instant.plusHours?_hoursBetween onTheHour notEarlier

/-- Of the instants in the hours of a calendar by the clock, none is without a place but a
leap second that runs over at the end of the last hour. -/
theorem index?_eq_none_iff_runsOver
    {last instant : Instant}
    (isLast : calendar.lastHour? = some last)
    (notEarlier : calendar.start ≤ instant.topOfHour)
    (notLater : instant.topOfHour ≤ last) :
    calendar.index? instant = none ↔
      RunsOver calendar.start instant ∧ instant.topOfHour = last := by
  have startsEarlier : calendar.start ≤ instant :=
    (Instant.le_topOfHour_iff onTheHour).mp notEarlier
  have hours := Instant.hoursBetween_eq_hoursApart onTheHour startsEarlier
  have nonneg := Instant.hoursApart_nonneg onTheHour startsEarlier
  have tops := Instant.seconds_topOfHour_eq calendar.start instant
  have wholeSecond := Instant.nanos_of_onTheHour onTheHour
  have lastFields := (Instant.plusHours?_eq_some_iff wholeSecond).mp isLast
  have ordered := Instant.le_iff.mp notLater
  have isHour := Instant.plusHours?_hoursApart onTheHour instant
  have sameHour : instant.topOfHour = last ↔
      hoursApart calendar.start instant = (calendar.length : Int) - 1 := by
    constructor
    · rintro rfl
      rw [onTheHour] at tops
      have sameSecond := tops.symm.trans lastFields.1
      simp only [secondsPerHour] at sameSecond
      omega
    · intro same
      rw [same, ← lastHour?, isLast] at isHour
      exact (Option.some.inj isHour).symm
  rw [index?_eq_none_iff, hourOf, hours, sameHour]
  rw [onTheHour] at tops
  simp only [tops, lastFields.1, secondsPerHour] at ordered
  split
  · next runsOver =>
      simp only [runsOver, true_and]
      omega
  · next inTime =>
      simp only [inTime, false_and, iff_false]
      omega

end Places

/-! ## Fresh calendars -/

/-- A fresh calendar starts at the top of the current hour. If validity has not ended and
the limit allows for its hours by the clock, the last hour is that in which validity ends;
a place is the hour of the clock that its instant lies in; and all instants in the hours of
the calendar have places. All this but for leap seconds that run over, which are counted
into the next hour. In any case challenges are said to stop too early exactly if the limit
is less than the hours by the clock. -/
theorem hours_are_clock_hours_unless_leap_second_runs_over
    (payload : Bytes)
    (now validUntil : Instant)
    (maxHours saltLength : Nat)
    (salts : SaltStream) :
    let calendar := (generate payload now validUntil maxHours saltLength salts).1
    calendar.start = now.topOfHour ∧
      (now.topOfHour ≤ validUntil → hoursApart now validUntil ≤ maxHours →
        calendar.lastHour? =
          if RunsOver calendar.start validUntil ∧ hoursApart now validUntil < maxHours then
            validUntil.topOfHour.plusHours? 1
          else some validUntil.topOfHour) ∧
      (∀ instant place, calendar.start ≤ instant → calendar.index? instant = some place →
        calendar.start.plusHours? place =
          if RunsOver calendar.start instant then instant.topOfHour.plusHours? 1
          else some instant.topOfHour) ∧
      (∀ last instant, calendar.lastHour? = some last →
        calendar.start ≤ instant.topOfHour → instant.topOfHour ≤ last →
        (calendar.index? instant = none ↔
          RunsOver calendar.start instant ∧ instant.topOfHour = last)) ∧
      (calendar.fallsShort validUntil = true ↔ maxHours < hoursApart now validUntil) := by
  intro calendar
  have onTheHour : calendar.start.topOfHour = calendar.start := Instant.topOfHour_topOfHour now
  refine ⟨rfl, ?_, ?_, ?_, ?_⟩
  · intro notEarlier keepsLimit
    exact lastHour?_of_within payload now validUntil maxHours saltLength salts notEarlier
      keepsLimit
  · intro instant place notEarlier isPlace
    exact plusHours?_of_index? onTheHour notEarlier isPlace
  · intro last instant isLast notEarlier notLater
    exact index?_eq_none_iff_runsOver onTheHour isLast notEarlier notLater
  · exact fallsShort_generate_iff payload now validUntil maxHours saltLength salts

/-- Twenty past eleven in the evening of the first day of 1970. -/
def lateEvening : Instant :=
  (Instant.of? 84000 0).get (by decide)

/-- A leap second that ends the second hour of the next day. -/
def leapSecondNextMorning : Instant :=
  (Instant.of? 93599 1500000000).get (by decide)

theorem leap_second_of_next_morning_is_in_last_hour :
    let calendar :=
      (generate [1, 2, 3] lateEvening leapSecondNextMorning 9 4 (SaltStream.ofSeed 7)).1
    calendar.lastHour? = some leapSecondNextMorning.topOfHour ∧
      (∃ place, calendar.index? leapSecondNextMorning = some place ∧
        calendar.start.plusHours? place = some leapSecondNextMorning.topOfHour) ∧
      ¬ calendar.fallsShort leapSecondNextMorning = true := by
  intro calendar
  obtain ⟨_, within, places, covered, short⟩ :=
    hours_are_clock_hours_unless_leap_second_runs_over [1, 2, 3] lateEvening
      leapSecondNextMorning 9 4 (SaltStream.ofSeed 7)
  have inTime : ¬ RunsOver calendar.start leapSecondNextMorning := by decide +kernel
  have isLast := within (by decide) (by decide)
  rw [if_neg fun overLimit => inTime overLimit.1] at isLast
  have hasPlace : calendar.index? leapSecondNextMorning ≠ none := by
    intro noPlace
    exact inTime ((covered _ leapSecondNextMorning isLast (by decide +kernel) (by decide)).mp
      noPlace).1
  obtain ⟨place, isPlace⟩ := Option.ne_none_iff_exists'.mp hasPlace
  have isHour := places leapSecondNextMorning place (by decide +kernel) isPlace
  rw [if_neg inTime] at isHour
  exact ⟨isLast, ⟨place, isPlace, isHour⟩, fun isShort => absurd (short.mp isShort) (by decide)⟩

/-- Twenty past ten in the morning of the first day of 1970. -/
def lateMorning : Instant :=
  (Instant.of? 37200 0).get (by decide)

/-- A leap second that ends the same hour. -/
def leapSecondAtEleven : Instant :=
  (Instant.of? 39599 1500000000).get (by decide)

/-- The leap second before eleven is in the hour of ten by the clock. A calendar that is
valid until then has eleven for its last hour and puts the leap second there, and one that
is valid until the second before has no place for it. -/
theorem leap_second_before_eleven_is_put_after_eleven :
    let untilLeap :=
      (generate [1, 2, 3] lateMorning leapSecondAtEleven 9 4 (SaltStream.ofSeed 7)).1
    let untilEleven :=
      (generate [1, 2, 3] lateMorning ((Instant.of? 39599 0).get (by decide)) 9 4
        (SaltStream.ofSeed 7)).1
    let ten := (Instant.of? 36000 0).get (by decide)
    let eleven := (Instant.of? 39600 0).get (by decide)
    lateMorning.topOfHour = ten ∧ leapSecondAtEleven.topOfHour = ten ∧
      untilLeap.lastHour? = some eleven ∧
      untilLeap.index? leapSecondAtEleven = some 1 ∧ ten.plusHours? 1 = some eleven ∧
      untilEleven.lastHour? = some ten ∧ untilEleven.index? leapSecondAtEleven = none := by
  decide +kernel

end BlockCustody.EvidenceCalendar
