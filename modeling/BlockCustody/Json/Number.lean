import BlockCustody.Json.Fault

/-!
Contract: numbers in JSON texts.

Owns:
- the grammar of numbers;
- which numbers are whole, and what floating-point number any other one is.

Does not own: which numbers a particular value may be.
-/

namespace BlockCustody.Json

/-- A number as it was read: whole if it is written so and 64 bits hold it,
otherwise a floating-point number given by its bits. -/
inductive Number where
  | whole (value : Int)
  | real (bits : UInt64)
deriving DecidableEq, Repr

def Number.found : Number → Found
  | .whole value => .integer value
  | .real bits => .real bits

/-! ## Grammar -/

/-- A number without its sign, in parts: the digits before the point, those
after it, and the exponent, which is negative or not. -/
structure NumberText where
  whole : List Char
  fraction : List Char
  exponent : Option (Bool × List Char)
deriving DecidableEq, Repr

/-- The digits at the front of a text. -/
def digits : Reader (List Char) :=
  fun text => .ok (text.takeWhile Char.isDigit, text.dropWhile Char.isDigit)

/-- Digits, of which there must be one at least. `atEnd` is the fault when the text
ends instead. -/
def someDigits (atEnd : Fault) : Reader (List Char)
  | [] => .error atEnd
  | first :: rest => if first.isDigit then digits (first :: rest) else .error .invalidNumber

/-- The digits before the point. A zero in front must be the only one. -/
def wholeDigits (atEnd : Fault) : Reader (List Char)
  | [] => .error atEnd
  | '0' :: rest =>
      match rest with
      | [] => .ok (['0'], [])
      | next :: _ => if next.isDigit then .error .invalidNumber else .ok (['0'], rest)
  | text => someDigits atEnd text

/-- The digits after the point, none if there is no point. -/
def fractionDigits (atEnd : Fault) : Reader (List Char)
  | '.' :: rest => someDigits atEnd rest
  | text => .ok ([], text)

/-- The sign and digits of an exponent, if there is one. -/
def exponentPart (atEnd : Fault) : Reader (Option (Bool × List Char)) :=
  let signed (negative : Bool) : Reader (Option (Bool × List Char)) := do
    return some (negative, ← someDigits atEnd)
  fun text =>
    match text with
    | [] => .ok (none, [])
    | first :: rest =>
        if first = 'e' ∨ first = 'E' then
          match rest with
          | '+' :: rest => signed false rest
          | '-' :: rest => signed true rest
          | rest => signed false rest
        else .ok (none, text)

/-- A number without its sign. -/
def numberText (atEnd : Fault) : Reader NumberText := do
  let whole ← wholeDigits atEnd
  let fraction ← fractionDigits atEnd
  return { whole, fraction, exponent := ← exponentPart atEnd }

/-! ## Values -/

def digitValue (digit : Char) : Nat :=
  digit.toNat - 48

/-- The number that digits are written for. -/
def valueOf (digits : List Char) : Nat :=
  digits.foldl (fun value digit => value * 10 + digitValue digit) 0

/-- Appends digits to a number as long as 64 bits hold it, and returns the digits
that were left over. -/
def absorb : Nat → List Char → Nat × List Char
  | significand, [] => (significand, [])
  | significand, digit :: rest =>
      let longer := significand * 10 + digitValue digit
      if longer < 0x10000000000000000 then absorb longer rest else (significand, digit :: rest)

/-- The floating-point number nearest to a power of ten. -/
def floatPowerOfTen (exponent : Nat) : Float :=
  Float.ofScientific 1 false exponent

/-- The largest power of ten that is a floating-point number. -/
def largestPower : Nat := 308

/-- A significand times a power of ten, rounded after every operation. -/
def scaled (significand : Nat) (exponent : Int) : Except Fault Float :=
  let start := significand.toUInt64.toFloat
  if 0 ≤ exponent then
    if significand = 0 then .ok start
    else if exponent.toNat ≤ largestPower then
      let value := start * floatPowerOfTen exponent.toNat
      if value.isInf then .error .numberOutOfRange else .ok value
    else .error .numberOutOfRange
  else
    let down := (-exponent).toNat
    if down ≤ largestPower then .ok (start / floatPowerOfTen down)
    else if down ≤ 2 * largestPower then
      .ok (start / floatPowerOfTen largestPower / floatPowerOfTen (down - largestPower))
    else .ok 0

/-- Exponents beyond this are not looked at more closely. -/
def exponentLimit : Nat := 0x7FFFFFFF

/-- The floating-point number a text without a sign stands for. Of its digits only
as many count as 64 bits hold. -/
def NumberText.real (text : NumberText) : Except Fault Float :=
  let (significand, wholeLeft) := absorb 0 text.whole
  let (significand, fractionLeft) := absorb significand text.fraction
  let exponent : Int := wholeLeft.length - (text.fraction.length - fractionLeft.length)
  match text.exponent with
  | none => scaled significand exponent
  | some (negative, exponentDigits) =>
      let written := valueOf exponentDigits
      if exponentLimit < written then
        if significand ≠ 0 ∧ ¬ negative then .error .numberOutOfRange else .ok 0
      else scaled significand (if negative then exponent - written else exponent + written)

/-- The value of a number without its sign, and whether it has one. A whole number
below the range of 64 bits with a sign, and negative zero, are floating-point
numbers. -/
def NumberText.value (negative : Bool) (text : NumberText) : Except Fault Number :=
  let magnitude := valueOf text.whole
  let signed (value : Float) : Number := .real (if negative then -value else value).toBits
  if text.fraction.isEmpty && text.exponent.isNone && magnitude < 0x10000000000000000 then
    if !negative then .ok (.whole magnitude)
    else if 0 < magnitude ∧ magnitude ≤ 0x8000000000000000 then .ok (.whole (-magnitude))
    else .ok (signed magnitude.toUInt64.toFloat)
  else
    match text.real with
    | .error fault => .error fault
    | .ok value => .ok (signed value)

/-- Whether a number starts with this character. -/
def startsNumber (character : Char) : Bool :=
  character = '-' || character.isDigit

/-- A number that starts right at the front. -/
def number : Reader Number
  | '-' :: rest => (do FrontReader.judge ((← numberText .endOfValue).value true)) rest
  | text => (do FrontReader.judge ((← numberText .endOfValue).value false)) text

/-! ## Writing -/

/-- The digits of a number. -/
def writeNatural (value : Nat) : List Char :=
  Nat.toDigits 10 value

def writeInteger (value : Int) : List Char :=
  if value < 0 then '-' :: writeNatural value.natAbs else writeNatural value.natAbs

end BlockCustody.Json
