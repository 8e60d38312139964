import BlockCustody.Json.Typed
import BlockCustody.Proofs.Reading.ReadsBack

/-!
Contract: texts that stand for values.

Owns:
- when a text stands for a value, with a reader that takes it off the front;
- that it stands for no other one;
- that this passes on to what is made of the value, and to whole texts.

Does not own: which texts stand for the values of any kind.
-/

namespace BlockCustody.Json

variable {α β : Type}

/-- The first character belongs to a value; it is no blank and no mark between values. -/
def Opens : List Char → Prop
  | [] => False
  | first :: _ => isBlank first = false ∧ first ≠ ',' ∧ first ≠ ']'

/-- What stands here does not prolong a number in front of it. -/
def StopsNumber : List Char → Prop
  | [] => True
  | next :: _ => next.isDigit = false ∧ next ≠ '.' ∧ next ≠ 'e' ∧ next ≠ 'E'

/-- The text stands for the value: the reader takes all of the text for it, and nothing of
what follows. A number says where it ends by what follows it, all else does so itself. -/
structure TextOf (reader : Reader α) (text : List Char) (value : α) : Prop where
  opens : Opens text
  readsBack : ∀ rest, StopsNumber rest → reader (text ++ rest) = .ok (value, rest)

theorem stopsNumber_mark {mark : Char} (isMark : mark = ',' ∨ mark = ']' ∨ mark = '}')
    (rest : List Char) : StopsNumber (mark :: rest) := by
  rcases isMark with rfl | rfl | rfl <;> exact ⟨by decide, by decide, by decide, by decide⟩

theorem TextOf.value_eq {reader : Reader α} {text : List Char} {value other : α}
    (isText : TextOf reader text value) (isTextToo : TextOf reader text other) :
    value = other := by
  have isRead := isText.readsBack [] trivial
  rw [isTextToo.readsBack [] trivial] at isRead
  cases isRead
  rfl

theorem textOf_of_readsBack
    {reader : Reader α}
    {text : List Char}
    {value : α}
    (opens : Opens text)
    (readsBack : reader.ReadsBack text value) :
    TextOf reader text value where
  opens := opens
  readsBack := fun rest _ => readsBack rest

/-- What is made of a value without reading on has the text of the value. -/
theorem TextOf.bind_nil
    {reader : Reader α}
    {next : α → Reader β}
    {text : List Char}
    {value : α}
    {result : β}
    (isText : TextOf reader text value)
    (makes : (next value).ReadsBack [] result) :
    TextOf (reader >>= next) text result where
  opens := isText.opens
  readsBack := by
    intro rest stops
    rw [FrontReader.bind_apply, isText.readsBack rest stops]
    exact makes rest

theorem TextOf.map
    {reader : Reader α}
    {text : List Char}
    {value : α}
    (isText : TextOf reader text value)
    (make : α → β) :
    TextOf (do return make (← reader)) text (make value) :=
  isText.bind_nil (FrontReader.readsBack_pure (make value))

theorem whole_ofList
    {reader : Reader α}
    {text : List Char}
    {value : α}
    (isText : TextOf reader text value) :
    whole reader (String.ofList text) = .ok value := by
  have isRead := isText.readsBack [] trivial
  rw [List.append_nil] at isRead
  rw [whole, String.toList_ofList, isRead]
  rfl

/-! ## Blanks -/

theorem skipBlanks_cons
    {first : Char}
    (notBlank : isBlank first = false)
    (rest : List Char) :
    skipBlanks (first :: rest) = first :: rest := by
  rw [skipBlanks, List.dropWhile_cons_of_neg (by simp [notBlank])]

theorem isBlank_of_isDigit {character : Char} (isDigit : character.isDigit = true) :
    isBlank character = false := by
  simp only [isBlank, Bool.or_eq_false_iff, decide_eq_false_iff_not]
  refine ⟨⟨⟨?_, ?_⟩, ?_⟩, ?_⟩ <;> (rintro rfl; exact absurd isDigit (by decide))

end BlockCustody.Json
