import BlockCustody.Bytes.LittleEndian

/-!
Contract: the shortest decimal that names a binary floating-point number.

Owns:
- finite numbers of 64 bits as a whole number times a power of two;
- which decimals are nearer to such a number than to any other;
- among those the ones with the fewest digits, and of these the nearest.

Does not own: where a point or an exponent is written.
-/

namespace BlockCustody.Decimal

/-- The number `mantissa * 2 ^ exponent`. Its neighbour below may be half as far
away as its neighbour above. -/
structure BinaryNumber where
  mantissa : Nat
  exponent : Int
  closeBelow : Bool
deriving DecidableEq, Repr

/-- The magnitude of a finite number from its 64 bits. -/
def BinaryNumber.ofBits (bits : UInt64) : BinaryNumber :=
  let fraction := (bits &&& 0xFFFFFFFFFFFFF).toNat
  let scale := (bits >>> 52 &&& 0x7FF).toNat
  if scale = 0 then { mantissa := fraction, exponent := -1074, closeBelow := false }
  else
    { mantissa := 0x10000000000000 + fraction
      exponent := scale - 1075
      closeBelow := fraction = 0 && 1 < scale }

/-- The number `digits * 10 ^ exponent`. -/
structure DecimalNumber where
  digits : Nat
  exponent : Int
deriving DecidableEq, Repr

/-- Compares `a * 10 ^ i` with `b * 2 ^ j`. -/
def compareScaled (a : Nat) (i : Int) (b : Nat) (j : Int) : Ordering :=
  compare (a * powerOfTen i.toNat * powerOfTwo (-j).toNat)
    (b * powerOfTwo j.toNat * powerOfTen (-i).toNat)

/-- Whether a decimal is nearer to a number than to its neighbours. Halfway
between two it belongs to the one with the even mantissa. -/
def Names (decimal : DecimalNumber) (number : BinaryNumber) : Bool :=
  let halfwayDown := if number.closeBelow then 4 * number.mantissa - 1 else 4 * number.mantissa - 2
  let halfwayUp := 4 * number.mantissa + 2
  let ends := number.mantissa % 2 = 0
  let down := compareScaled decimal.digits decimal.exponent halfwayDown (number.exponent - 2)
  let up := compareScaled decimal.digits decimal.exponent halfwayUp (number.exponent - 2)
  (down = .gt || (ends && down = .eq)) && (up = .lt || (ends && up = .eq))

/-- How far below one the search for the leading digit reaches. -/
def reach : Nat := 340

/-- The number of digits before the point; negative by the number of zeros right
after it. Only for numbers other than zero. -/
def integerDigits (number : BinaryNumber) : Int :=
  let shifted :=
    number.mantissa * powerOfTwo number.exponent.toNat * powerOfTen reach /
      powerOfTwo (-number.exponent).toNat
  (Nat.toDigits 10 shifted).length - reach

/-- The two decimals next to a number among those with the given exponent, the
nearer one first; at the same distance the even one is. -/
def neighbours (number : BinaryNumber) (exponent : Int) : List DecimalNumber :=
  let numerator := number.mantissa * powerOfTwo number.exponent.toNat * powerOfTen (-exponent).toNat
  let denominator := powerOfTwo (-number.exponent).toNat * powerOfTen exponent.toNat
  let below := numerator / denominator
  let twiceRest := 2 * (numerator % denominator)
  let lower : DecimalNumber := { digits := below, exponent }
  let upper : DecimalNumber := { digits := below + 1, exponent }
  if twiceRest < denominator || (twiceRest = denominator && below % 2 = 0) then [lower, upper]
  else [upper, lower]

/-- Moves zeros at the end of the digits into the exponent. The first argument
bounds their number. -/
def withoutTrailingZeros : Nat → DecimalNumber → DecimalNumber
  | 0, decimal => decimal
  | limit + 1, decimal =>
      if decimal.digits ≠ 0 ∧ decimal.digits % 10 = 0 then
        withoutTrailingZeros limit
          { digits := decimal.digits / 10, exponent := decimal.exponent + 1 }
      else decimal

/-- Seventeen digits always suffice. -/
def digitLimit : Nat := 17

/-- The shortest decimal that names a number. -/
def shortest (number : BinaryNumber) : DecimalNumber :=
  if number.mantissa = 0 then { digits := 0, exponent := 0 }
  else
    let leading := integerDigits number
    let candidates := (List.range digitLimit).flatMap fun count =>
      neighbours number (leading - (count + 1 : Nat))
    let found := (candidates.find? fun decimal => Names decimal number).getD
      { digits :=
          number.mantissa * powerOfTwo number.exponent.toNat * Nat.pow 5 (-number.exponent).toNat
        exponent := min number.exponent 0 }
    withoutTrailingZeros digitLimit found

end BlockCustody.Decimal
