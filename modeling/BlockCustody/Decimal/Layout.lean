import BlockCustody.Decimal.Shortest

/-!
Contract: floating-point numbers as text.

Owns:
- when digits are written around a point and when with an exponent;
- the sign, the trailing `.0` of whole numbers, and the form of exponents.

Does not own: which digits are written.
-/

namespace BlockCustody.Decimal

/-- Choices in writing a number from its digits. Numbers from
`10 ^ positionalFrom` up to `10 ^ positionalBelow` get no exponent; exponents
have a sign and no leading zeros. -/
structure NumberFormat where
  positionalFrom : Int
  positionalBelow : Int
deriving DecidableEq, Repr

/-- Digits around a point, where `leading` digits come before it. -/
def positional (digits : List Char) (leading : Int) : List Char :=
  if leading ≤ 0 then
    ['0', '.'] ++ List.replicate (-leading).toNat '0' ++ digits
  else if digits.length ≤ leading.toNat then
    digits ++ List.replicate (leading.toNat - digits.length) '0' ++ ['.', '0']
  else digits.take leading.toNat ++ ['.'] ++ digits.drop leading.toNat

/-- One digit before the point, the others after it, and an exponent. -/
def withExponent (digits : List Char) (exponent : Int) : List Char :=
  let power := Nat.toDigits 10 exponent.natAbs
  let fraction :=
    match digits.drop 1 with
    | [] => []
    | rest => '.' :: rest
  digits.take 1 ++ fraction ++ ['e', if exponent < 0 then '-' else '+'] ++ power

/-- The text of a finite number given by its 64 bits. -/
def ofBits (format : NumberFormat) (bits : UInt64) : List Char :=
  let decimal := shortest (BinaryNumber.ofBits bits)
  let digits := Nat.toDigits 10 decimal.digits
  let exponent := decimal.exponent + digits.length - 1
  let magnitude :=
    if format.positionalFrom ≤ exponent ∧ exponent < format.positionalBelow then
      positional digits (exponent + 1)
    else withExponent digits exponent
  if bits >>> 63 = 1 then '-' :: magnitude else magnitude

end BlockCustody.Decimal
