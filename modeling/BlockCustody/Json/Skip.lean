import BlockCustody.Json.Number
import BlockCustody.Json.Quoted

/-!
Contract: passing over a JSON value that nobody asked for.

Owns: the syntax of all values, which an unwanted value must still have.

Does not own: what a value means. No number is too large and no surrogate lonely
when it is passed over.
-/

namespace BlockCustody.Json

mutual

/-- Passes over a value. The first argument bounds how many values it holds. -/
def skipValueWithin : Nat → Reader Unit
  | 0 => FrontReader.refuse .endOfValue
  | limit + 1 => fun text =>
      match skipBlanks text with
      | [] => .error .endOfValue
      | 'n' :: rest => word ['u', 'l', 'l'] rest
      | 't' :: rest => word ['r', 'u', 'e'] rest
      | 'f' :: rest => word ['a', 'l', 's', 'e'] rest
      | '"' :: rest => skipQuoted rest
      | '-' :: rest => (do let _ ← numberText .invalidNumber) rest
      | '[' :: rest =>
          match skipBlanks rest with
          | [] => .error .endOfList
          | ']' :: rest => .ok ((), rest)
          | items => skipItemsWithin limit items
      | '{' :: rest =>
          match skipBlanks rest with
          | [] => .error .endOfObject
          | '}' :: rest => .ok ((), rest)
          | members => skipMembersWithin limit members
      | first :: rest =>
          if first.isDigit then (do let _ ← numberText .invalidNumber) (first :: rest)
          else .error .noValue

/-- Passes over the items of a list up to its end. -/
def skipItemsWithin : Nat → Reader Unit
  | 0 => FrontReader.refuse .endOfList
  | limit + 1 => fun text =>
      match skipValueWithin limit text with
      | .error fault => .error fault
      | .ok (_, rest) =>
          match skipBlanks rest with
          | [] => .error .endOfList
          | ',' :: rest => skipItemsWithin limit rest
          | ']' :: rest => .ok ((), rest)
          | _ => .error .noCommaInList

/-- Passes over the members of an object up to its end. -/
def skipMembersWithin : Nat → Reader Unit
  | 0 => FrontReader.refuse .endOfObject
  | limit + 1 => fun text =>
      match skipBlanks text with
      | [] => .error .endOfObject
      | '"' :: rest =>
          match (do skipQuoted; colon; skipValueWithin limit : Reader Unit) rest with
          | .error fault => .error fault
          | .ok (_, rest) =>
              match skipBlanks rest with
              | [] => .error .endOfObject
              | ',' :: rest => skipMembersWithin limit rest
              | '}' :: rest => .ok ((), rest)
              | _ => .error .noCommaInObject
      | _ => .error .nameNotText

end

/-- Passes over a value. -/
def skipValue : Reader Unit :=
  fun text => skipValueWithin (2 * text.length + 2) text

end BlockCustody.Json
