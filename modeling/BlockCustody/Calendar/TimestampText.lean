import BlockCustody.Bytes.LittleEndian
import BlockCustody.Calendar.Instant

/-!
Contract: the text form of instants.

Owns:
- writing: date, `T`, time of day, fraction if any, `Z`; a leap second as one more
  second, which inside a minute is the next one;
- reading of a wider form: blanks between the parts, small `t` and `z` or a
  blank in their places, one-digit fields, signed years and offsets from
  universal time;
- the faults of a text that is no timestamp, and their wording.

Does not own: where timestamps stand.
-/

namespace BlockCustody.Calendar

inductive TimestampFault where
  | outOfRange
  | impossible
  | invalid
  | tooShort
  | trailing
deriving DecidableEq, Repr

def TimestampFault.message : TimestampFault → String
  | .outOfRange => "input is out of range"
  | .impossible => "no possible date and time matching input"
  | .invalid => "input contains invalid characters"
  | .tooShort => "premature end of input"
  | .trailing => "trailing input"

namespace Timestamp

/-! ## Writing -/

/-- A number with zeros in front up to a width. -/
def padded (width value : Nat) : List Char :=
  let digits := Nat.toDigits 10 value
  List.replicate (width - digits.length) '0' ++ digits

/-- Years of four digits stand as they are, all others carry their sign. -/
def yearText (year : Int) : List Char :=
  if 0 ≤ year ∧ year ≤ 9999 then padded 4 year.toNat
  else (if year < 0 then '-' else '+') :: padded 4 year.natAbs

/-- The fraction of a second in three, six or nine digits, as few as say it. -/
def fractionText (nanos : Nat) : List Char :=
  if nanos = 0 then []
  else if nanos % 1000000 = 0 then '.' :: padded 3 (nanos / 1000000)
  else if nanos % 1000 = 0 then '.' :: padded 6 (nanos / 1000)
  else '.' :: padded 9 nanos

def chars (instant : Instant) : List Char :=
  let date := CivilDate.ofDays (instant.seconds / secondsPerDay)
  let timeOfDay := instant.secondOfDay.toNat
  let isLeap := nanosPerSecond ≤ instant.nanos
  let second := timeOfDay % 60 + (if isLeap then 1 else 0)
  let nanos := if isLeap then instant.nanos - nanosPerSecond else instant.nanos
  yearText date.year ++ '-' :: padded 2 date.month ++ '-' :: padded 2 date.day ++
    'T' :: padded 2 (timeOfDay / 3600) ++ ':' :: padded 2 (timeOfDay / 60 % 60) ++
    ':' :: padded 2 second ++ fractionText nanos ++ ['Z']

def render (instant : Instant) : String :=
  String.ofList (chars instant)

/-! ## Reading -/

/-- The characters with the White_Space property. -/
def isBlank (character : Char) : Bool :=
  let number := character.toNat
  (9 ≤ number && number ≤ 13) || number = 0x20 || number = 0x85 || number = 0xA0 ||
    number = 0x1680 || (0x2000 ≤ number && number ≤ 0x200A) || number = 0x2028 ||
    number = 0x2029 || number = 0x202F || number = 0x205F || number = 0x3000

def dropBlanks (text : List Char) : List Char :=
  text.dropWhile isBlank

/-- Reads digits until `limit` of them are read or none follows. The number
must stay below 2^63. -/
def digitsFrom : Nat → Nat → List Char → Except TimestampFault (Nat × List Char)
  | 0, value, rest => .ok (value, rest)
  | _, value, [] => .ok (value, [])
  | limit + 1, value, character :: rest =>
      if character.isDigit then
        let value := value * 10 + (character.toNat - 48)
        if 0x8000000000000000 ≤ value then .error .outOfRange else digitsFrom limit value rest
      else .ok (value, character :: rest)

/-- A number of at least one and at most `limit` digits. -/
def number (limit : Nat) : List Char → Except TimestampFault (Nat × List Char)
  | [] => .error .tooShort
  | first :: rest =>
      if first.isDigit then digitsFrom limit 0 (first :: rest) else .error .invalid

def boundedNumber
    (limit low high : Nat)
    (text : List Char) :
    Except TimestampFault (Nat × List Char) := do
  let (value, rest) ← number limit (dropBlanks text)
  if value < low ∨ high < value then throw .outOfRange
  return (value, rest)

/-- A year: four digits at most, or a sign and any number of digits. -/
def year (text : List Char) : Except TimestampFault (Int × List Char) := do
  let text := dropBlanks text
  let (value, rest) ←
    match text with
    | '-' :: unsigned => do
        let (value, rest) ← number unsigned.length unsigned
        pure (-(value : Int), rest)
    | '+' :: unsigned => do
        let (value, rest) ← number unsigned.length unsigned
        pure ((value : Int), rest)
    | _ => do
        let (value, rest) ← number 4 text
        pure ((value : Int), rest)
  if value < -2147483648 ∨ 2147483647 < value then throw .outOfRange
  return (value, rest)

def separator (mark : Char) (text : List Char) : Except TimestampFault (List Char) :=
  match dropBlanks text with
  | [] => .error .tooShort
  | first :: rest => if first = mark then .ok rest else .error .invalid

/-- A fraction of a second, if there is one. Digits after the ninth are ignored. -/
def fraction (text : List Char) : Except TimestampFault (Nat × List Char) :=
  match text with
  | '.' :: digits => do
      let (value, rest) ← number 9 digits
      let scale := powerOfTen (9 - (digits.length - rest.length))
      return (value * scale, rest.dropWhile Char.isDigit)
  | _ => .ok (0, text)

def hasTwoBytes : List Char → Bool
  | [] => false
  | [single] => 2 ≤ single.utf8Size
  | _ => true

def twoDigits (text : List Char) : Except TimestampFault (Nat × List Char) :=
  match text with
  | high :: low :: rest =>
      if high.isDigit && low.isDigit then
        .ok ((high.toNat - 48) * 10 + (low.toNat - 48), rest)
      else .error .invalid
  | _ => if hasTwoBytes text then .error .invalid else .error .tooShort

/-- An offset from universal time in seconds: `Z`, `UTC`, or a sign with hours
and minutes, colons and blanks between these being optional. -/
def offset (text : List Char) : Except TimestampFault (Int × List Char) :=
  let text := dropBlanks text
  match text with
  | [] => .error .tooShort
  | first :: rest =>
      if (String.ofList (text.take 3)).toUpper = "UTC" then .ok (0, text.drop 3)
      else if first = 'Z' ∨ first = 'z' then .ok (0, rest)
      else if first = '+' ∨ first = '-' ∨ first = '\u2212' then do
        let (hours, rest) ← twoDigits rest
        let rest := rest.dropWhile fun character => character = ':' || isBlank character
        let (minutes, rest) ← twoDigits rest
        if 60 ≤ minutes then throw .outOfRange
        let seconds : Int := hours * 3600 + minutes * 60
        return (if first = '+' then seconds else -seconds, rest)
      else .error .invalid

/-- The fields of a timestamp as they are written. -/
structure Fields where
  date : CivilDate
  hour : Nat
  minute : Nat
  second : Nat
  nanos : Nat
  offset : Int
deriving DecidableEq, Repr

/-- Reads the fields one after another; nothing but blanks may follow them. -/
def fields (text : List Char) : Except TimestampFault Fields := do
  let (year, text) ← year text
  let text ← separator '-' text
  let (month, text) ← boundedNumber 2 1 12 text
  let text ← separator '-' text
  let (day, text) ← boundedNumber 2 1 31 text
  let text ←
    match text with
    | [] => throw .tooShort
    | mark :: rest =>
        if mark = 'T' ∨ mark = 't' ∨ mark = ' ' then pure rest else throw .invalid
  let (hour, text) ← boundedNumber 2 0 23 text
  let text ← separator ':' text
  let (minute, text) ← boundedNumber 2 0 59 text
  let text ← separator ':' text
  let (second, text) ← boundedNumber 2 0 60 text
  let (nanos, text) ← fraction text
  let (offset, text) ← offset text
  if !(dropBlanks text).isEmpty then throw .trailing
  return { date := { year, month, day }, hour, minute, second, nanos, offset }

/-- The instant that fields name. Second 60 is the leap second after second 59. -/
def Fields.instant (fields : Fields) : Except TimestampFault Instant := do
  if ¬ fields.date.Exists then throw .outOfRange
  let leap := fields.second = 60
  let second := if leap then 59 else fields.second
  let nanos := if leap then fields.nanos + nanosPerSecond else fields.nanos
  let wall :=
    fields.date.toDays * secondsPerDay + fields.hour * 3600 + fields.minute * 60 + second
  if wall < firstSecond ∨ lastSecond < wall then throw .outOfRange
  if fields.offset ≤ -secondsPerDay ∨ secondsPerDay ≤ fields.offset then throw .outOfRange
  match Instant.of? (wall - fields.offset) nanos with
  | some instant => return instant
  | none => throw .impossible

def read (text : String) : Except TimestampFault Instant := do
  (← fields text.toList).instant

end Timestamp

end BlockCustody.Calendar
