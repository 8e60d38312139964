import BlockCustody.Calendar.CivilDate

/-!
Contract: instants in universal time and the hours between them.

Owns:
- instants to the nanosecond, leap seconds included, and their range;
- elapsed time between instants and whole hours of it;
- the top of the hour, and moving an instant by hours.

Does not own: the text form of instants.
-/

namespace BlockCustody

namespace Calendar

/-- The first second of the first supported day, in the year -262143. -/
def firstSecond : Int := -8334601228800

/-- The last second of the last supported day, in the year 262142. -/
def lastSecond : Int := 8210266876799

def secondsPerHour : Int := 3600

def secondsPerDay : Int := 86400

def nanosPerSecond : Nat := 1000000000

end Calendar

open Calendar

/-- An instant: seconds since the start of 1970, and nanoseconds. Any second may be
followed by a leap second, whose nanoseconds go on to twice as many. -/
structure Instant where
  seconds : Int
  nanos : Nat
  inRange : firstSecond ≤ seconds ∧ seconds ≤ lastSecond
  nanosFit : nanos < 2 * nanosPerSecond
deriving DecidableEq

namespace Instant

/-- A leap second that does not come at the end of a minute. -/
def InsideMinute (instant : Instant) : Prop :=
  nanosPerSecond ≤ instant.nanos ∧ instant.seconds % 60 ≠ 59

instance (instant : Instant) : Decidable instant.InsideMinute :=
  inferInstanceAs (Decidable (_ ∧ _))

/-- The instant with these seconds and nanoseconds. Leap seconds are taken at the end of
a minute only. -/
def of? (seconds : Int) (nanos : Nat) : Option Instant :=
  if valid :
      (firstSecond ≤ seconds ∧ seconds ≤ lastSecond) ∧
        (nanos < nanosPerSecond ∨ nanos < 2 * nanosPerSecond ∧ seconds % 60 = 59) then
    some { seconds, nanos, inRange := valid.1, nanosFit := by omega }
  else none

def secondOfDay (instant : Instant) : Int :=
  instant.seconds % secondsPerDay

/-- Leap seconds that the plain count of seconds leaves out: one, when the leap
second of one instant comes before the other's time of day. -/
def leapAdjustment (start finish : Instant) : Int :=
  if start.secondOfDay < finish.secondOfDay ∧ nanosPerSecond ≤ start.nanos then 1
  else if finish.secondOfDay < start.secondOfDay ∧ nanosPerSecond ≤ finish.nanos then -1
  else 0

def elapsedNanos (start finish : Instant) : Int :=
  (finish.seconds - start.seconds + leapAdjustment start finish) * nanosPerSecond +
    (finish.nanos - start.nanos)

/-- Whole seconds from one instant to another, a fraction being dropped on either
side of zero. -/
def elapsedSeconds (start finish : Instant) : Int :=
  (elapsedNanos start finish).tdiv nanosPerSecond

/-- Hours from one instant to another: the whole seconds between them, divided
with rounding toward the past. -/
def hoursBetween (start finish : Instant) : Int :=
  elapsedSeconds start finish / secondsPerHour

def topOfHour (instant : Instant) : Instant :=
  { seconds := instant.seconds - instant.seconds % secondsPerHour
    nanos := 0
    inRange := by
      have range := instant.inRange
      simp only [firstSecond, lastSecond, secondsPerHour] at *
      omega
    nanosFit := by decide }

/-- The instant a number of hours later, if it is still in range. A leap second counts as
the second before it when hours are added, and as the one after it when they are taken
off. -/
def plusHours? (instant : Instant) (hours : Int) : Option Instant :=
  if instant.nanos < nanosPerSecond then
    of? (instant.seconds + hours * secondsPerHour) instant.nanos
  else if hours = 0 then some instant
  else
    let second := if hours < 0 then instant.seconds + 1 else instant.seconds
    of? (second + hours * secondsPerHour) (instant.nanos - nanosPerSecond)

def Before (earlier later : Instant) : Prop :=
  earlier.seconds < later.seconds ∨
    earlier.seconds = later.seconds ∧ earlier.nanos < later.nanos

instance (earlier later : Instant) : Decidable (Before earlier later) :=
  inferInstanceAs (Decidable (_ ∨ _))

end Instant

end BlockCustody
