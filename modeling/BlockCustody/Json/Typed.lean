import BlockCustody.Json.Number
import BlockCustody.Json.Quoted

/-!
Contract: JSON values of an expected kind.

Owns:
- numbers within bounds, texts, nothing, optional values and lists;
- what is reported when a value is of another kind;
- values that must be a whole text.

Does not own: records, and values told apart by a name.
-/

namespace BlockCustody.Json

/-- The fault of a value that is not of the expected kind, from its first
character on. A value that is not even well formed is reported for that. -/
def mismatch (expected : String) (text : List Char) : Fault :=
  let unlessFaulty {α : Type} (read : Except Fault (α × List Char)) (found : α → Found) : Fault :=
    match read with
    | .error fault => fault
    | .ok (value, _) => .wrongType (found value) expected
  match text with
  | [] => .endOfValue
  | 'n' :: rest => unlessFaulty (word ['u', 'l', 'l'] rest) fun _ => .null
  | 't' :: rest => unlessFaulty (word ['r', 'u', 'e'] rest) fun _ => .flag true
  | 'f' :: rest => unlessFaulty (word ['a', 'l', 's', 'e'] rest) fun _ => .flag false
  | '"' :: rest => unlessFaulty (quotedRest rest) .text
  | '[' :: _ => .wrongType .list expected
  | '{' :: _ => .wrongType .object expected
  | first :: rest =>
      if startsNumber first then unlessFaulty (number (first :: rest)) Number.found else .noValue

/-- A kind of whole number: its bounds and how messages call it. -/
structure IntegerKind where
  least : Int
  greatest : Int
  name : String
deriving DecidableEq, Repr

/-- A whole number within bounds. -/
def integer (kind : IntegerKind) : Reader Int :=
  fun text =>
    match skipBlanks text with
    | [] => .error .endOfValue
    | first :: rest =>
        if startsNumber first then
          match number (first :: rest) with
          | .error fault => .error fault
          | .ok (.real bits, _) => .error (.wrongType (.real bits) kind.name)
          | .ok (.whole value, rest) =>
              if kind.least ≤ value ∧ value ≤ kind.greatest then .ok (value, rest)
              else .error (.wrongInteger value kind.name)
        else .error (mismatch kind.name (first :: rest))

/-- A text. `expected` is how messages call what it stands for. -/
def string (expected : String) : Reader String :=
  fun text =>
    match skipBlanks text with
    | [] => .error .endOfValue
    | '"' :: rest => quotedRest rest
    | other => .error (mismatch expected other)

/-- The value that stands for nothing. -/
def nothing (expected : String) : Reader Unit :=
  fun text =>
    match skipBlanks text with
    | [] => .error .endOfValue
    | 'n' :: rest => word ['u', 'l', 'l'] rest
    | other => .error (mismatch expected other)

/-- A value, or nothing. -/
def optional {α : Type} (reader : Reader α) : Reader (Option α) :=
  fun text =>
    match skipBlanks text with
    | 'n' :: rest => (do word ['u', 'l', 'l']; return none) rest
    | other => (do return some (← reader)) other

/-! ## Lists -/

/-- Whether another item follows, the comma before it being read; if none does,
the end of the list is. -/
def itemFollows (isFirst : Bool) : Reader Bool :=
  fun text =>
    match skipBlanks text with
    | [] => .error .endOfList
    | ']' :: rest => .ok (false, rest)
    | ',' :: rest =>
        if isFirst then .ok (true, ',' :: rest)
        else
          match skipBlanks rest with
          | [] => .error .endOfValue
          | ']' :: _ => .error .trailingComma
          | item => .ok (true, item)
    | item => if isFirst then .ok (true, item) else .error .noCommaInList

/-- The end of a list of which nothing more is wanted. -/
def closeList : Reader Unit :=
  fun text =>
    match skipBlanks text with
    | [] => .error .endOfList
    | ']' :: rest => .ok ((), rest)
    | ',' :: rest =>
        match skipBlanks rest with
        | ']' :: _ => .error .trailingComma
        | _ => .error .trailingText
    | _ => .error .trailingText

/-- Reads what follows the opening bracket of a list. -/
def inList {α : Type} (expected : String) (items : Reader α) : Reader α :=
  fun text =>
    match skipBlanks text with
    | [] => .error .endOfValue
    | '[' :: rest => items rest
    | other => .error (mismatch expected other)

/-- Items up to the end of a list, after those already read, which are given last
one first. The first argument bounds their number. -/
def itemsFrom {α : Type} (item : Reader α) : Nat → List α → Reader (List α)
  | 0, _ => FrontReader.refuse .endOfList
  | limit + 1, found => fun text =>
      match itemFollows found.isEmpty text with
      | .error fault => .error fault
      | .ok (false, rest) => .ok (found.reverse, rest)
      | .ok (true, rest) =>
          match item rest with
          | .error fault => .error fault
          | .ok (value, rest) => itemsFrom item limit (value :: found) rest

/-- A list of any length. -/
def list {α : Type} (item : Reader α) : Reader (List α) :=
  inList "a sequence" fun text => itemsFrom item (text.length + 1) [] text

/-- How a list of known length is called. -/
def arrayTitle (length : Nat) : String :=
  "an array of length " ++ toString length

/-- As many items as are still wanted, after those already read, which are given
last one first. -/
def exactItems {α : Type} (length : Nat) (item : Reader α) : Nat → List α → Reader (List α)
  | 0, found => do
      closeList
      return found.reverse
  | wanted + 1, found => do
      if ← itemFollows found.isEmpty then
        exactItems length item wanted ((← item) :: found)
      else FrontReader.refuse (.wrongLength found.length (arrayTitle length))

/-- A list of a known length. -/
def listOfLength {α : Type} (length : Nat) (item : Reader α) : Reader (List α) :=
  inList (arrayTitle length) (exactItems length item length [])

/-! ## Whole texts -/

/-- Reads a value from a text that holds nothing else. -/
def whole {α : Type} (reader : Reader α) (text : String) : Except Fault α :=
  match reader text.toList with
  | .error fault => .error fault
  | .ok (value, rest) => if (skipBlanks rest).isEmpty then .ok value else .error .trailingText

/-! ## Writing -/

def writeNothing : List Char :=
  ['n', 'u', 'l', 'l']

/-- Pieces with commas between them. -/
def separated : List (List Char) → List Char
  | [] => []
  | [only] => only
  | first :: rest => first ++ ',' :: separated rest

def writeList {α : Type} (writeItem : α → List Char) (items : List α) : List Char :=
  '[' :: separated (items.map writeItem) ++ [']']

end BlockCustody.Json
