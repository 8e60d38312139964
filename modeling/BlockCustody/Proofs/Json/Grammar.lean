import BlockCustody.Json.Record

/-!
Contract: the grammar of JSON texts.

Owns:
- blanks, numbers, quoted texts, lists and objects, nested to any depth;
- the characters that a quoted text spells, in whatever escapes;
- the members of an object with their names and the texts of their values.

Does not own: reading, and what a value is taken for.
-/

namespace BlockCustody.Json.Grammar

/-- Nothing but blanks. -/
def Blanks (text : List Char) : Prop :=
  ∀ character ∈ text, isBlank character = true

instance (text : List Char) : Decidable (Blanks text) :=
  decidable_of_iff (text.all isBlank = true) List.all_eq_true

/-! ## Numbers -/

/-- Digits, of which there is one at least. -/
def Digits (text : List Char) : Prop :=
  text ≠ [] ∧ ∀ character ∈ text, character.isDigit = true

instance (text : List Char) : Decidable (Digits text) :=
  decidable_of_iff ((!text.isEmpty && text.all Char.isDigit) = true) (by simp [Digits])

/-- Digits before a point. A zero in front is the only one. -/
def Whole (text : List Char) : Prop :=
  Digits text ∧ (text.head? = some '0' → text = ['0'])

/-- A point and digits, or nothing. -/
inductive Fraction : List Char → Prop where
  | none : Fraction []
  | some {digits : List Char} (isDigits : Digits digits) : Fraction ('.' :: digits)

/-- The letter of an exponent with its sign and digits, or nothing. -/
inductive Exponent : List Char → Prop where
  | none : Exponent []
  | some
      {letter : Char}
      {sign digits : List Char}
      (isLetter : letter = 'e' ∨ letter = 'E')
      (isSign : sign = [] ∨ sign = ['+'] ∨ sign = ['-'])
      (isDigits : Digits digits) :
      Exponent (letter :: (sign ++ digits))

/-- A number without its sign. -/
inductive Unsigned : List Char → Prop where
  | parts
      {whole fraction exponent : List Char}
      (isWhole : Whole whole)
      (isFraction : Fraction fraction)
      (isExponent : Exponent exponent) :
      Unsigned (whole ++ (fraction ++ exponent))

/-! ## Quoted texts -/

/-- A character that stands for itself between quotes. -/
def Plain (character : Char) : Prop :=
  character ≠ '"' ∧ character ≠ '\\' ∧ 0x20 ≤ character.toNat

instance (character : Char) : Decidable (Plain character) :=
  inferInstanceAs (Decidable (_ ∧ _))

/-- What may stand between quotes. An escape by number need not stand for a character. -/
inductive Quoted : List Char → Prop where
  | done : Quoted []
  | plain {character : Char} {rest : List Char} (isPlain : Plain character)
      (others : Quoted rest) : Quoted (character :: rest)
  | lettered {letter : Char} {rest : List Char} (isEscape : (lettered? letter).isSome = true)
      (others : Quoted rest) : Quoted ('\\' :: letter :: rest)
  | numbered {first second third fourth : Char} {rest : List Char}
      (isNumber : (fourDigits? first second third fourth).isSome = true)
      (others : Quoted rest) :
      Quoted ('\\' :: 'u' :: first :: second :: third :: fourth :: rest)

/-- What stands between quotes spells these characters. One beyond the first 65536 may be
given by two numbers. -/
inductive Spells : List Char → List Char → Prop where
  | done : Spells [] []
  | plain {character : Char} {rest text : List Char} (isPlain : Plain character)
      (others : Spells rest text) : Spells (character :: rest) (character :: text)
  | lettered {letter character : Char} {rest text : List Char}
      (isEscape : lettered? letter = some character) (others : Spells rest text) :
      Spells ('\\' :: letter :: rest) (character :: text)
  | numbered {first second third fourth character : Char} {rest text : List Char}
      (isNumber : fourDigits? first second third fourth = some character.toNat)
      (others : Spells rest text) :
      Spells ('\\' :: 'u' :: first :: second :: third :: fourth :: rest) (character :: text)
  | paired {first second third fourth fifth sixth seventh eighth character : Char}
      {leading trailing : Nat} {rest text : List Char}
      (isLeading : fourDigits? first second third fourth = some leading)
      (isTrailing : fourDigits? fifth sixth seventh eighth = some trailing)
      (leads : isLeadingSurrogate leading = true)
      (trails : isTrailingSurrogate trailing = true)
      (isNumber : character.toNat =
        0x10000 + (leading - 0xD800) * 0x400 + (trailing - 0xDC00))
      (others : Spells rest text) :
      Spells
        ('\\' :: 'u' :: first :: second :: third :: fourth :: '\\' :: 'u' :: fifth :: sixth ::
          seventh :: eighth :: rest)
        (character :: text)

/-- What stands between quotes spells the name. -/
def SpellsName (quoted : List Char) (name : String) : Prop :=
  Spells quoted name.toList

/-! ## Lists and objects -/

/-- A value with blanks around it. -/
inductive Padded : List Char → List Char → Prop where
  | blanks {before value after : List Char} (areBefore : Blanks before)
      (areAfter : Blanks after) : Padded value (before ++ (value ++ after))

/-- A name between quotes, a colon and a value, with blanks around all of them. -/
inductive Member {name : Type} (IsName : List Char → name → Prop) :
    name × List Char → List Char → Prop where
  | blanks
      {before quoted between afterColon value after : List Char}
      {isCalled : name}
      (areBefore : Blanks before)
      (isName : IsName quoted isCalled)
      (areBetween : Blanks between)
      (areAfterColon : Blanks afterColon)
      (areAfter : Blanks after) :
      Member IsName (isCalled, value)
        (before ++
          '"' :: (quoted ++ '"' :: (between ++ ':' :: (afterColon ++ (value ++ after)))))

/-- What stands between brackets: parts with commas between them, or only blanks. -/
inductive Inside {part : Type} (IsPiece : part → List Char → Prop) :
    List part → List Char → Prop where
  | none {blanks : List Char} (areBlanks : Blanks blanks) : Inside IsPiece [] blanks
  | last {first : part} {piece : List Char} (isPiece : IsPiece first piece) :
      Inside IsPiece [first] piece
  | more
      {first next : part}
      {others : List part}
      {piece rest : List Char}
      (isPiece : IsPiece first piece)
      (areOthers : Inside IsPiece (next :: others) rest) :
      Inside IsPiece (first :: next :: others) (piece ++ ',' :: rest)

/-- Any value, as it stands in a text. Numbers may be of any size. -/
inductive Value : List Char → Prop where
  | null : Value ['n', 'u', 'l', 'l']
  | true : Value ['t', 'r', 'u', 'e']
  | false : Value ['f', 'a', 'l', 's', 'e']
  | positive {text : List Char} (isNumber : Unsigned text) : Value text
  | negative {text : List Char} (isNumber : Unsigned text) : Value ('-' :: text)
  | quoted {text : List Char} (isQuoted : Quoted text) : Value ('"' :: (text ++ ['"']))
  | list {items : List (List Char)} {inside : List Char} (isInside : Inside Padded items inside)
      (areValues : ∀ item ∈ items, Value item) : Value ('[' :: (inside ++ [']']))
  | object {members : List (Unit × List Char)} {inside : List Char}
      (isInside : Inside (Member fun quoted _ => Quoted quoted) members inside)
      (areValues : ∀ member ∈ members, Value member.2) : Value ('{' :: (inside ++ ['}']))

/-- An object with these members, in their order, and with their names in any spelling. -/
inductive Object : List (String × List Char) → List Char → Prop where
  | braces {members : List (String × List Char)} {inside : List Char}
      (isInside : Inside (Member SpellsName) members inside) :
      Object members ('{' :: (inside ++ ['}']))

end BlockCustody.Json.Grammar
