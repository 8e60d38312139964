import BlockCustody.Bytes.LittleEndian
import BlockCustody.Text.Escape

/-!
Contract: byte strings as hexadecimal text.

Owns:
- writing, in lowercase, two digits per byte;
- reading, in either case, with the first fault in a fixed order of precedence;
- the wording of the faults.

Does not own: what length a particular identifier must have.
-/

namespace BlockCustody.Text

inductive HexFault where
  | oddLength
  | invalidDigit (byte : UInt8) (position : Nat)
  | invalidLength
deriving DecidableEq, Repr

/-- The wording of a fault; an offending byte is shown as the character of the
same number. -/
def HexFault.message : HexFault → String
  | .oddLength => "Odd number of digits"
  | .invalidDigit byte position =>
      "Invalid character " ++ Escape.quotedChar (Char.ofNat byte.toNat) ++
        " at position " ++ toString position
  | .invalidLength => "Invalid string length"

namespace Hex

/-- The lowercase digit of a number below sixteen. -/
def digit (value : UInt8) : Char :=
  if value < 10 then Char.ofNat (48 + value.toNat) else Char.ofNat (87 + value.toNat)

/-- The number of a digit given as an ASCII byte of either case. -/
def digitValue? (byte : UInt8) : Option UInt8 :=
  if 48 ≤ byte ∧ byte ≤ 57 then some (byte - 48)
  else if 97 ≤ byte ∧ byte ≤ 102 then some (byte - 87)
  else if 65 ≤ byte ∧ byte ≤ 70 then some (byte - 55)
  else none

def encodeChars (bytes : Bytes) : List Char :=
  bytes.flatMap fun (byte : UInt8) => [digit (byte >>> 4), digit (byte &&& 15)]

/-- Two lowercase digits per byte, the high half first. -/
def encode (bytes : Bytes) : String :=
  String.ofList (encodeChars bytes)

/-- Reads pairs of digits; the leftmost byte that is no digit is the fault.
`position` is the index of the first byte given, `decoded` what was read before
it, last byte first. -/
def decodePairs : Nat → Bytes → Bytes → Except HexFault Bytes
  | _, decoded, [] => .ok decoded.reverse
  | _, _, [_] => .error .oddLength
  | position, decoded, high :: low :: rest =>
      match digitValue? high with
      | none => .error (.invalidDigit high position)
      | some highValue =>
          match digitValue? low with
          | none => .error (.invalidDigit low (position + 1))
          | some lowValue =>
              decodePairs (position + 2) ((highValue <<< 4 ||| lowValue) :: decoded) rest

/-- Reads digits given as bytes. An odd number of bytes is refused before any
digit is looked at. -/
def decodeBytes (digits : Bytes) : Except HexFault Bytes :=
  if digits.length % 2 ≠ 0 then .error .oddLength
  else decodePairs 0 [] digits

def decode (text : String) : Except HexFault Bytes :=
  decodeBytes text.toUTF8.data.toList

end Hex

end BlockCustody.Text
