import BlockCustody.Calendar.Instant
import BlockCustody.Content.Id
import BlockCustody.Salt.Stream

/-!
Contract: calendars of hourly challenges for one block.

Owns:
- the salt and expected answer of every hour;
- generating a calendar while the block's bytes are at hand;
- which hour of a calendar an instant falls in.

Does not own: which block a calendar belongs to, and who is challenged.
-/

namespace BlockCustody

/-- The challenge of one hour, and the answer that proves possession. -/
structure HourlyProof where
  salt : Bytes
  expected : String
deriving DecidableEq, Repr

/-- The challenges of consecutive hours. -/
structure EvidenceCalendar where
  start : Instant
  proofs : List HourlyProof
deriving DecidableEq

namespace EvidenceCalendar

def proofOf (payload salt : Bytes) : HourlyProof :=
  { salt, expected := saltedDigest salt payload }

/-- Draws a salt for each of `count` hours, one after another, and puts the
proofs after those already made, which are given last one first. -/
def drawProofs
    (payload : Bytes)
    (saltLength : Nat) :
    Nat → SaltStream → List HourlyProof → List HourlyProof × SaltStream
  | 0, salts, made => (made.reverse, salts)
  | count + 1, salts, made =>
      let (salt, salts) := salts.draw saltLength
      drawProofs payload saltLength count salts (proofOf payload salt :: made)

/-- The hours a calendar spans beyond its first: up to the end of validity, but
never fewer than none or more than the limit. -/
def spanHours (start validUntil : Instant) (maxHours : Nat) : Nat :=
  min (Instant.hoursBetween start validUntil).toNat maxHours

/-- The calendar from the current hour through the end of validity. -/
def generate
    (payload : Bytes)
    (now validUntil : Instant)
    (maxHours saltLength : Nat)
    (salts : SaltStream) :
    EvidenceCalendar × SaltStream :=
  let start := now.topOfHour
  let (proofs, salts) :=
    drawProofs payload saltLength (spanHours start validUntil maxHours + 1) salts []
  ({ start, proofs }, salts)

def length (calendar : EvidenceCalendar) : Nat :=
  calendar.proofs.length

/-- The start of the last hour, if it is a representable instant. -/
def lastHour? (calendar : EvidenceCalendar) : Option Instant :=
  calendar.start.plusHours? ((calendar.length : Int) - 1)

def hourOf (calendar : EvidenceCalendar) (instant : Instant) : Int :=
  Instant.hoursBetween calendar.start instant

/-- The place in the calendar of the hour an instant falls in. -/
def index? (calendar : EvidenceCalendar) (instant : Instant) : Option Nat :=
  let hour := calendar.hourOf instant
  if hour < 0 ∨ (calendar.length : Int) ≤ hour then none else some hour.toNat

def proof? (calendar : EvidenceCalendar) (index : Nat) : Option HourlyProof :=
  calendar.proofs[index]?

def proofAt? (calendar : EvidenceCalendar) (instant : Instant) : Option HourlyProof :=
  (calendar.index? instant).bind calendar.proof?

/-- Whether challenges stop before the hour in which validity ends. -/
def fallsShort (calendar : EvidenceCalendar) (validUntil : Instant) : Bool :=
  match calendar.lastHour? with
  | some last => last.Before validUntil.topOfHour
  | none => false

end EvidenceCalendar

end BlockCustody
