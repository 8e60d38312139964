import BlockCustody.Proofs.Json.Grammar
import BlockCustody.Proofs.Json.TextOf
import Mathlib.Data.List.DropRight

/-!
Contract: blanks in front of a value make no difference.

Owns:
- that blanks are passed over, and stop a number like what follows them;
- readers that do not mind blanks, and which ones do not;
- that whole texts may have blanks on both sides.

Does not own: blanks between a value and what follows it.
-/

namespace BlockCustody.Json

open Grammar

variable {α β draft record : Type}

section Blanks

variable {blanks text : List Char}

theorem Grammar.Blanks.skip (areBlanks : Blanks blanks) (text : List Char) :
    skipBlanks (blanks ++ text) = skipBlanks text := by
  rw [skipBlanks, List.dropWhile_append_of_pos areBlanks, skipBlanks]

theorem skipBlanks_skipBlanks (text : List Char) :
    skipBlanks (skipBlanks text) = skipBlanks text :=
  List.dropWhile_idempotent isBlank text

/-- Blanks are no part of a number. -/
theorem Grammar.Blanks.stopsNumber (areBlanks : Blanks blanks) (stops : StopsNumber text) :
    StopsNumber (blanks ++ text) := by
  cases blanks with
  | nil => exact stops
  | cons first others =>
      have isBlank := areBlanks first List.mem_cons_self
      have oneOf : first = ' ' ∨ first = '\n' ∨ first = '\t' ∨ first = '\r' := by
        simpa [Json.isBlank, or_assoc] using isBlank
      rcases oneOf with rfl | rfl | rfl | rfl <;>
        exact ⟨by decide, by decide, by decide, by decide⟩

theorem skipBlanks_of_opens (opens : Opens text) (rest : List Char) :
    skipBlanks (text ++ rest) = text ++ rest := by
  cases text with
  | nil => exact opens.elim
  | cons first others => exact skipBlanks_cons opens.1 (others ++ rest)

end Blanks

/-- The reader passes over blanks in front of what it reads. -/
def IgnoresBlanks (reader : Reader α) : Prop :=
  ∀ text, reader (skipBlanks text) = reader text

theorem IgnoresBlanks.append {reader : Reader α} (ignores : IgnoresBlanks reader)
    {blanks : List Char} (areBlanks : Blanks blanks) (text : List Char) :
    reader (blanks ++ text) = reader text := by
  rw [← ignores, areBlanks.skip, ignores]

theorem IgnoresBlanks.bind {reader : Reader α} (ignores : IgnoresBlanks reader)
    (next : α → Reader β) : IgnoresBlanks (reader >>= next) := by
  intro text
  rw [FrontReader.bind_apply, FrontReader.bind_apply, ignores]

theorem colon_ignoresBlanks : IgnoresBlanks colon := by
  intro text
  rw [colon, colon, skipBlanks_skipBlanks]

theorem integer_ignoresBlanks (kind : IntegerKind) : IgnoresBlanks (integer kind) := by
  intro text
  rw [integer, integer, skipBlanks_skipBlanks]

theorem optional_ignoresBlanks {reader : Reader α} :
    IgnoresBlanks (optional reader) := by
  intro text
  rw [optional, optional, skipBlanks_skipBlanks]

theorem Shape.read_ignoresBlanks (shape : Shape draft record) : IgnoresBlanks shape.read := by
  intro text
  rw [Shape.read, Shape.read, skipBlanks_skipBlanks]

theorem skipValueWithin_ignoresBlanks (limit : Nat) : IgnoresBlanks (skipValueWithin limit) := by
  intro text
  cases limit with
  | zero => rfl
  | succ limit => simp only [skipValueWithin, skipBlanks_skipBlanks]

theorem skipItemsWithin_ignoresBlanks (limit : Nat) : IgnoresBlanks (skipItemsWithin limit) := by
  intro text
  cases limit with
  | zero => rfl
  | succ limit => simp only [skipItemsWithin, skipValueWithin_ignoresBlanks limit text]

theorem skipMembersWithin_ignoresBlanks (limit : Nat) :
    IgnoresBlanks (skipMembersWithin limit) := by
  intro text
  cases limit with
  | zero => rfl
  | succ limit => simp only [skipMembersWithin, skipBlanks_skipBlanks]

/-- A text that is read whole may have blanks on both sides. -/
theorem whole_of_padded
    {reader : Reader α}
    (ignores : IgnoresBlanks reader)
    {text : List Char}
    {value : α}
    (isText : TextOf reader text value)
    {padded : String}
    (isPadded : Padded text padded.toList) :
    whole reader padded = .ok value := by
  generalize isList : padded.toList = characters at isPadded
  cases isPadded with
  | @blanks before _ after areBefore areAfter =>
      have stops : StopsNumber after := by
        rw [← List.append_nil after]
        exact areAfter.stopsNumber trivial
      have noneLeft : skipBlanks after = [] := List.dropWhile_eq_nil_iff.mpr areAfter
      rw [whole, isList, ignores.append areBefore, isText.readsBack after stops]
      simp only [noneLeft, List.isEmpty_nil, if_true]

end BlockCustody.Json
