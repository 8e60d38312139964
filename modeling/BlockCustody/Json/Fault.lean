import BlockCustody.Decimal.Layout
import BlockCustody.Reading.FrontReader
import BlockCustody.Text.Escape

/-!
Contract: what can be wrong with a JSON text, or with a value in it.

Owns:
- the faults of texts that are not JSON;
- the faults of values that are not what was expected;
- the wording of both.

Does not own: when a fault arises.
-/

namespace BlockCustody.Json

/-- A kind of value that was found where another was expected. -/
inductive Found where
  | null
  | flag (value : Bool)
  | integer (value : Int)
  | real (bits : UInt64)
  | text (value : String)
  | list
  | object
  | bareName
deriving DecidableEq, Repr

/-- Floating-point numbers from a hundred-thousandth up to ten to the sixteenth are
written without an exponent. -/
def realFormat : Decimal.NumberFormat :=
  { positionalFrom := -5
    positionalBelow := 16 }

def Found.describe : Found → String
  | .null => "null"
  | .flag true => "boolean \x60true\x60"
  | .flag false => "boolean \x60false\x60"
  | .integer value => "integer \x60" ++ toString value ++ "\x60"
  | .real bits => "floating point \x60" ++ String.ofList (Decimal.ofBits realFormat bits) ++ "\x60"
  | .text value => "string " ++ Text.Escape.quoted value
  | .list => "sequence"
  | .object => "map"
  | .bareName => "unit variant"

/-- Why a text is not the JSON form of a value of the expected kind. -/
inductive Fault where
  | endOfValue
  | endOfText
  | endOfList
  | endOfObject
  | noValue
  | unknownWord
  | noColon
  | noCommaInList
  | noCommaInObject
  | nameNotText
  | trailingComma
  | trailingText
  | invalidNumber
  | numberOutOfRange
  | invalidEscape
  | controlCharacter
  | loneSurrogate
  | cutSurrogatePair
  | wrongType (found : Found) (expected : String)
  | wrongInteger (value : Int) (expected : String)
  | wrongLength (length : Nat) (expected : String)
  | duplicateField (name : String)
  | missingField (name : String)
  | unknownName (name : String) (known : List String)
deriving DecidableEq, Repr

/-- A name in the marks by which messages set off names. -/
def marked (name : String) : String :=
  "\x60" ++ name ++ "\x60"

/-- The names one of which was expected. -/
def alternatives : List String → String
  | [] => "there are no variants"
  | [only] => "expected " ++ marked only
  | [first, second] => "expected " ++ marked first ++ " or " ++ marked second
  | names => "expected one of " ++ ", ".intercalate (names.map marked)

def Fault.message : Fault → String
  | .endOfValue => "EOF while parsing a value"
  | .endOfText => "EOF while parsing a string"
  | .endOfList => "EOF while parsing a list"
  | .endOfObject => "EOF while parsing an object"
  | .noValue => "expected value"
  | .unknownWord => "expected ident"
  | .noColon => "expected \x60:\x60"
  | .noCommaInList => "expected \x60,\x60 or \x60]\x60"
  | .noCommaInObject => "expected \x60,\x60 or \x60\x7d\x60"
  | .nameNotText => "key must be a string"
  | .trailingComma => "trailing comma"
  | .trailingText => "trailing characters"
  | .invalidNumber => "invalid number"
  | .numberOutOfRange => "number out of range"
  | .invalidEscape => "invalid escape"
  | .controlCharacter => "control character (\\u0000-\\u001F) found while parsing a string"
  | .loneSurrogate => "lone leading surrogate in hex escape"
  | .cutSurrogatePair => "unexpected end of hex escape"
  | .wrongType found expected =>
      "invalid type: " ++ found.describe ++ ", expected " ++ expected
  | .wrongInteger value expected =>
      "invalid value: integer " ++ marked (toString value) ++ ", expected " ++ expected
  | .wrongLength length expected =>
      "invalid length " ++ toString length ++ ", expected " ++ expected
  | .duplicateField name => "duplicate field " ++ marked name
  | .missingField name => "missing field " ++ marked name
  | .unknownName name known =>
      "unknown variant " ++ marked name ++ ", " ++ alternatives known

/-- Takes a value off the front of a text. -/
abbrev Reader := FrontReader Char Fault

/-! ## Between values -/

/-- The blanks of JSON, fewer than those of other texts. -/
def isBlank (character : Char) : Bool :=
  character = ' ' || character = '\n' || character = '\t' || character = '\r'

/-- A text from its first character that is not blank. -/
def skipBlanks (text : List Char) : List Char :=
  text.dropWhile isBlank

/-- Reads the letters of a fixed word. -/
def word : List Char → Reader Unit
  | [], text => .ok ((), text)
  | _ :: _, [] => .error .endOfValue
  | letter :: letters, character :: text =>
      if character = letter then word letters text else .error .unknownWord

/-- Reads the colon between a name and its value. -/
def colon : Reader Unit :=
  fun text =>
    match skipBlanks text with
    | [] => .error .endOfObject
    | ':' :: rest => .ok ((), rest)
    | _ => .error .noColon

end BlockCustody.Json
