import BlockCustody.Bytes.LittleEndian

/-!
Contract: texts as UTF-8 bytes.

Owns:
- writing a text as bytes and reading it back;
- where and how a byte string first fails to be UTF-8, and the wording of that.

Does not own: where such bytes come from.
-/

namespace BlockCustody.Text

/-- The first place where bytes are not UTF-8: either a number of bytes that can
start no character, or a character that is cut off by the end. -/
inductive Utf8Fault where
  | invalid (width index : Nat)
  | cutOff (index : Nat)
deriving DecidableEq, Repr

def Utf8Fault.message : Utf8Fault → String
  | .invalid width index =>
      "invalid utf-8 sequence of " ++ toString width ++ " bytes from index " ++ toString index
  | .cutOff index => "incomplete utf-8 byte sequence from index " ++ toString index

namespace Utf8

def encode (text : String) : Bytes :=
  text.toUTF8.data.toList

/-- Bytes that continue a character. -/
def isTail (byte : UInt8) : Bool :=
  0x80 ≤ byte && byte ≤ 0xBF

/-- The second bytes that may follow a leading byte of a longer character. -/
def isSecond (first second : UInt8) : Bool :=
  if first = 0xE0 then 0xA0 ≤ second && second ≤ 0xBF
  else if first = 0xED then 0x80 ≤ second && second ≤ 0x9F
  else if first = 0xF0 then 0x90 ≤ second && second ≤ 0xBF
  else if first = 0xF4 then 0x80 ≤ second && second ≤ 0x8F
  else isTail second

/-- How many bytes the character with this leading byte has, zero if it leads none. -/
def widthOf (first : UInt8) : Nat :=
  if first < 0x80 then 1
  else if 0xC2 ≤ first && first ≤ 0xDF then 2
  else if 0xE0 ≤ first && first ≤ 0xEF then 3
  else if 0xF0 ≤ first && first ≤ 0xF4 then 4
  else 0

/-- The fault of one character of known width, if it has one. -/
def characterFault (index : Nat) (first : UInt8) (width : Nat) (rest : Bytes) :
    Option Utf8Fault :=
  let tails := (rest.drop 1).take (width - 2)
  let valid := (tails.takeWhile isTail).length
  match width, rest with
  | 0, _ => some (.invalid 1 index)
  | 1, _ => none
  | _, [] => some (.cutOff index)
  | _, second :: _ =>
      if !isSecond first second then some (.invalid 1 index)
      else if valid < tails.length then some (.invalid (2 + valid) index)
      else if tails.length < width - 2 then some (.cutOff index)
      else none

/-- The first fault of a byte string, counting from the given index. The first
argument bounds the number of characters. -/
def faultFrom : Nat → Nat → Bytes → Option Utf8Fault
  | 0, _, _ => none
  | _, _, [] => none
  | count + 1, index, first :: rest =>
      let width := widthOf first
      match characterFault index first width rest with
      | some fault => some fault
      | none => faultFrom count (index + width) (rest.drop (width - 1))

/-- The text of a byte string, or its first fault. -/
def decode (bytes : Bytes) : Except Utf8Fault String :=
  match String.fromUTF8? ⟨bytes.toArray⟩ with
  | some text => .ok text
  | none => .error ((faultFrom bytes.length 0 bytes).getD (.cutOff 0))

end Utf8

end BlockCustody.Text
