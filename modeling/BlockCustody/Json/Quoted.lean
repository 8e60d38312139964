import BlockCustody.Json.Fault

/-!
Contract: texts inside JSON texts.

Owns:
- the escapes of a quoted text, surrogate pairs included;
- reading a quoted text, and passing over one;
- writing a text between quotes.

Does not own: where a text may stand.
-/

namespace BlockCustody.Json

/-- The number of a digit in base sixteen, of either case. -/
def hexValue? (digit : Char) : Option Nat :=
  if digit.isDigit then some (digit.toNat - 48)
  else if 'a' ≤ digit ∧ digit ≤ 'f' then some (digit.toNat - 87)
  else if 'A' ≤ digit ∧ digit ≤ 'F' then some (digit.toNat - 55)
  else none

/-- The number of four digits in base sixteen. -/
def fourDigits? (first second third fourth : Char) : Option Nat := do
  let high ← hexValue? first
  let upper ← hexValue? second
  let lower ← hexValue? third
  let low ← hexValue? fourth
  return ((high * 16 + upper) * 16 + lower) * 16 + low

/-- The bytes a text takes. -/
def utf8Length (text : List Char) : Nat :=
  text.foldr (fun character total => character.utf8Size + total) 0

/-- Four digits in base sixteen. Whether the text has ended before them is judged
by its bytes. -/
def fourDigits : Reader Nat
  | first :: second :: third :: fourth :: rest =>
      match fourDigits? first second third fourth with
      | some value => .ok (value, rest)
      | none => .error .invalidEscape
  | rest =>
      if utf8Length rest < 4 then .error .endOfText else .error .invalidEscape

def isLeadingSurrogate (unit : Nat) : Bool :=
  0xD800 ≤ unit && unit ≤ 0xDBFF

def isTrailingSurrogate (unit : Nat) : Bool :=
  0xDC00 ≤ unit && unit ≤ 0xDFFF

/-- The start of a further escape, which a leading surrogate must be followed by. -/
def furtherEscape : Reader Unit
  | [] => .error .endOfText
  | '\\' :: 'u' :: rest => .ok ((), rest)
  | ['\\'] => .error .endOfText
  | _ => .error .cutSurrogatePair

/-- The character an escape by number stands for, after the `u`. -/
def numberedCharacter : Reader Char := do
  let unit ← fourDigits
  if isTrailingSurrogate unit then FrontReader.refuse .loneSurrogate
  else if isLeadingSurrogate unit then do
    furtherEscape
    let trailing ← fourDigits
    if isTrailingSurrogate trailing then
      return Char.ofNat (0x10000 + (unit - 0xD800) * 0x400 + (trailing - 0xDC00))
    else FrontReader.refuse .loneSurrogate
  else return Char.ofNat unit

/-- The character that an escape of a single letter stands for. -/
def lettered? (letter : Char) : Option Char :=
  if letter = '"' ∨ letter = '\\' ∨ letter = '/' then some letter
  else if letter = 'b' then some '\x08'
  else if letter = 'f' then some '\x0c'
  else if letter = 'n' then some '\n'
  else if letter = 'r' then some '\r'
  else if letter = 't' then some '\t'
  else none

/-- The character an escape stands for, after the backslash. -/
def escapedCharacter : Reader Char
  | [] => .error .endOfText
  | letter :: rest =>
      if letter = 'u' then numberedCharacter rest
      else
        match lettered? letter with
        | some character => .ok (character, rest)
        | none => .error .invalidEscape

/-- Reads the characters up to the closing quote, after those already read, which
are given last one first. The first argument bounds the length of the text. -/
def quotedFrom : Nat → List Char → Reader String
  | 0, _, _ => .error .endOfText
  | _ + 1, _, [] => .error .endOfText
  | limit + 1, read, character :: rest =>
      if character = '"' then .ok (String.ofList read.reverse, rest)
      else if character = '\\' then
        match escapedCharacter rest with
        | .error fault => .error fault
        | .ok (escaped, rest) => quotedFrom limit (escaped :: read) rest
      else if character.toNat < 0x20 then .error .controlCharacter
      else quotedFrom limit (character :: read) rest

/-- Reads a text after its opening quote. -/
def quotedRest : Reader String :=
  fun text => quotedFrom text.length [] text

/-- Passes over an escape, after the backslash. Surrogates are not matched up. -/
def skipEscape : Reader Unit
  | [] => .error .endOfText
  | letter :: rest =>
      if letter = 'u' then (do let _ ← fourDigits) rest
      else if (lettered? letter).isSome then .ok ((), rest)
      else .error .invalidEscape

/-- Passes over the characters up to the closing quote. The first argument bounds
the length of the text. -/
def skipQuotedFrom : Nat → Reader Unit
  | 0, _ => .error .endOfText
  | _ + 1, [] => .error .endOfText
  | limit + 1, character :: rest =>
      if character = '"' then .ok ((), rest)
      else if character = '\\' then
        match skipEscape rest with
        | .error fault => .error fault
        | .ok (_, rest) => skipQuotedFrom limit rest
      else if character.toNat < 0x20 then .error .controlCharacter
      else skipQuotedFrom limit rest

/-- Passes over a text after its opening quote. -/
def skipQuoted : Reader Unit :=
  fun text => skipQuotedFrom text.length text

/-! ## Writing -/

/-- A lowercase digit in base sixteen. -/
def hexDigit (value : Nat) : Char :=
  if value < 10 then Char.ofNat (48 + value) else Char.ofNat (87 + value)

/-- A character inside quotes. Only quotes, backslashes and control characters are
escaped. -/
def writeCharacter (character : Char) : List Char :=
  if character = '"' then ['\\', '"']
  else if character = '\\' then ['\\', '\\']
  else if character = '\x08' then ['\\', 'b']
  else if character = '\x0c' then ['\\', 'f']
  else if character = '\n' then ['\\', 'n']
  else if character = '\r' then ['\\', 'r']
  else if character = '\t' then ['\\', 't']
  else if character.toNat < 0x20 then
    ['\\', 'u', '0', '0', hexDigit (character.toNat / 16), hexDigit (character.toNat % 16)]
  else [character]

/-- A text between quotes. -/
def writeQuoted (text : String) : List Char :=
  '"' :: text.toList.flatMap writeCharacter ++ ['"']

end BlockCustody.Json
