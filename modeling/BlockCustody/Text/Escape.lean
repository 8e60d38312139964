import BlockCustody.Text.Invisible

/-!
Contract: characters and texts as they are quoted in messages for people.

Owns:
- the escapes of characters that are not shown as they are;
- quoting of a single character and of a whole text.

Does not own: which characters are visible, and the messages that hold quoted text.
-/

namespace BlockCustody.Text.Escape

/-- The digits of a number in base sixteen, lowercase, without leading zeros. -/
def hexDigits (value : Nat) : List Char :=
  Nat.toDigits 16 value

/-- The escape that names a character by its number. -/
def byNumber (character : Char) : List Char :=
  ['\\', 'u', '\x7b'] ++ hexDigits character.toNat ++ ['\x7d']

/-- A character between quotes, which are escaped themselves. Characters that are
not visible by themselves are named by their numbers. -/
def escaped (quote character : Char) : List Char :=
  if character = '\x00' then ['\\', '0']
  else if character = '\t' then ['\\', 't']
  else if character = '\n' then ['\\', 'n']
  else if character = '\r' then ['\\', 'r']
  else if character = '\\' then ['\\', '\\']
  else if character = quote then ['\\', quote]
  else if Invisible.contains character then byNumber character
  else [character]

def quotedChar (character : Char) : String :=
  String.ofList (['\''] ++ escaped '\'' character ++ ['\''])

def quoted (text : String) : String :=
  String.ofList (['"'] ++ text.toList.flatMap (escaped '"') ++ ['"'])

end BlockCustody.Text.Escape
