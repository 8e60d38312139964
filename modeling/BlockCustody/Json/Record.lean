import BlockCustody.Json.Skip
import BlockCustody.Json.Typed

/-!
Contract: JSON values with named parts.

Owns:
- records, written as objects in any order or as lists in the order of their
  fields;
- unknown members, which are passed over, and repeated ones, which are not;
- values told apart by a name, with or without content.

Does not own: the fields of any particular record.
-/

namespace BlockCustody.Json

/-! ## Records -/

/-- A field of a record: its name, and how its value is read and put into a draft
of the record. -/
structure RecordField (draft : Type) where
  name : String
  read : draft → Reader draft

/-- How a record is read: how messages call it, its fields in order, the draft it
starts from and how the draft becomes the record. When lists may be short, the
draft stands in for what they leave out. -/
structure Shape (draft record : Type) where
  title : String
  fields : List (RecordField draft)
  mayBeShort : Bool
  blank : draft
  finish : draft → Except Fault record

variable {draft record : Type}

/-- How a list is called that is too short for a record. -/
def Shape.listTitle (shape : Shape draft record) : String :=
  shape.title ++ " with " ++ toString shape.fields.length ++
    (if shape.fields.length = 1 then " element" else " elements")

/-- The name of the next member; if there is none, the end of the object is read. -/
def nextName (isFirst : Bool) : Reader (Option String) :=
  fun text =>
    match skipBlanks text with
    | [] => .error .endOfObject
    | '}' :: rest => .ok (none, rest)
    | '"' :: rest =>
        if isFirst then (do return some (← quotedRest)) rest else .error .noCommaInObject
    | ',' :: rest =>
        if isFirst then .error .nameNotText
        else
          match skipBlanks rest with
          | [] => .error .endOfValue
          | '"' :: rest => (do return some (← quotedRest)) rest
          | '}' :: _ => .error .trailingComma
          | _ => .error .nameNotText
    | _ => if isFirst then .error .nameNotText else .error .noCommaInObject

/-- Reads the members of an object into a draft. `seen` are the names of the fields
read so far; the first argument bounds the number of members. -/
def readMembers (fields : List (RecordField draft)) :
    Nat → Bool → List String → draft → Reader draft
  | 0, _, _, _ => FrontReader.refuse .endOfObject
  | limit + 1, isFirst, seen, current => do
      match ← nextName isFirst with
      | none => return current
      | some name =>
          match fields.find? fun field => field.name = name with
          | none => do
              colon
              skipValue
              readMembers fields limit false seen current
          | some field =>
              if seen.contains name then FrontReader.refuse (.duplicateField name)
              else do
                colon
                let current ← field.read current
                readMembers fields limit false (name :: seen) current

/-- Reads the items of a list into the fields they are for. `index` counts the
fields already read. -/
def readItems (shape : Shape draft record) :
    List (RecordField draft) → Nat → draft → Reader draft
  | [], _, current => do
      closeList
      return current
  | field :: rest, index, current => do
      if ← itemFollows (index == 0) then
        readItems shape rest (index + 1) (← field.read current)
      else if shape.mayBeShort then return current
      else FrontReader.refuse (.wrongLength index shape.listTitle)

/-- Reads a record. -/
def Shape.read (shape : Shape draft record) : Reader record :=
  fun text =>
    match skipBlanks text with
    | [] => .error .endOfValue
    | '[' :: rest =>
        (do FrontReader.judge (shape.finish (← readItems shape shape.fields 0 shape.blank))) rest
    | '{' :: rest =>
        (do
          let filled ← readMembers shape.fields (rest.length + 1) true [] shape.blank
          FrontReader.judge (shape.finish filled)) rest
    | other => .error (mismatch shape.title other)

/-- The value of a field that must be there. -/
def required {α : Type} (name : String) : Option α → Except Fault α
  | some value => .ok value
  | none => .error (.missingField name)

/-! ## Named alternatives -/

/-- One of several forms of a value: its name, what the name means when it stands
alone, and how content is read. -/
structure Alternative (value : Type) where
  name : String
  alone : Except Fault value
  content : Reader value

/-- The alternative of a name. -/
def chosen {value : Type} (alternatives : List (Alternative value)) (name : String) :
    Except Fault (Alternative value) :=
  match alternatives.find? fun alternative => alternative.name = name with
  | some alternative => .ok alternative
  | none => .error (.unknownName name (alternatives.map Alternative.name))

/-- The end of an object with a single member. -/
def closeObject : Reader Unit :=
  fun text =>
    match skipBlanks text with
    | [] => .error .endOfObject
    | '}' :: rest => .ok ((), rest)
    | _ => .error .noValue

/-- Reads the name of the only member of an object, which must be there. -/
def onlyName : Reader String :=
  fun text =>
    match skipBlanks text with
    | [] => .error .endOfObject
    | '"' :: rest => quotedRest rest
    | '}' :: _ => .error .noValue
    | _ => .error .nameNotText

/-- Reads a value in one of several forms: a name alone, or an object whose only
member has the name. -/
def oneOf {value : Type} (alternatives : List (Alternative value)) : Reader value :=
  fun text =>
    match skipBlanks text with
    | [] => .error .endOfValue
    | '{' :: rest =>
        (do
          let alternative ← FrontReader.judge (chosen alternatives (← onlyName))
          colon
          let value ← alternative.content
          closeObject
          return value) rest
    | '"' :: rest =>
        (do
          let alternative ← FrontReader.judge (chosen alternatives (← quotedRest))
          FrontReader.judge alternative.alone) rest
    | _ => .error .noValue

/-- A form that is only a name. -/
def bareAlternative {value : Type} (name : String) (meaning : value) : Alternative value :=
  { name
    alone := .ok meaning
    content := do
      nothing "unit"
      return meaning }

/-- A form with named parts. -/
def recordAlternative {value : Type} (name : String) (shape : Shape draft value) :
    Alternative value :=
  { name
    alone := .error (.wrongType .bareName "struct variant")
    content := shape.read }

/-- A form with a single unnamed part. -/
def singleAlternative {value : Type} (name : String) (content : Reader value) :
    Alternative value :=
  { name
    alone := .error (.wrongType .bareName "newtype variant")
    content }

/-! ## Writing -/

/-- A member of an object. -/
def writeMember (member : String × List Char) : List Char :=
  writeQuoted member.1 ++ ':' :: member.2

/-- An object with members in the given order. -/
def writeObject (members : List (String × List Char)) : List Char :=
  '{' :: separated (members.map writeMember) ++ ['}']

end BlockCustody.Json
