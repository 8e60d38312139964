import BlockCustody.Reading.FrontReader

/-!
Contract: readers that give a written value back.

Owns:
- when a reader takes exactly the given symbols for a value, whatever follows;
- that this composes over reading one thing after another and over counted
  like things;
- that symbols read back as two values are read back as one.

Does not own: any format, and what a reader does with symbols nobody wrote.
-/

namespace BlockCustody.FrontReader

variable {symbol fault α β : Type}

/-- The reader takes exactly these symbols for this value, whatever follows
them. -/
def ReadsBack (reader : FrontReader symbol fault α) (symbols : List symbol) (value : α) : Prop :=
  ∀ rest, reader (symbols ++ rest) = .ok (value, rest)

theorem readsBack_pure (value : α) :
    ReadsBack (pure value : FrontReader symbol fault α) [] value :=
  fun _ => rfl

theorem bind_apply
    (first : FrontReader symbol fault α)
    (next : α → FrontReader symbol fault β)
    (input : List symbol) :
    (first >>= next) input =
      match first input with
      | .error fault => .error fault
      | .ok (value, rest) => next value rest :=
  rfl

/-- What is made of a value can be made at once of what the value is made of. -/
theorem bind_pure_bind
    {γ : Type}
    (reader : FrontReader symbol fault α)
    (make : α → β)
    (next : β → FrontReader symbol fault γ) :
    (do next (← (do return make (← reader)))) = reader >>= fun value => next (make value) := by
  funext input
  simp only [bind_apply]
  cases reader input <;> rfl

/-- What two readers take one after the other, the second chosen by the value of
the first, is what stands for both. -/
theorem ReadsBack.bind
    {first : FrontReader symbol fault α}
    {next : α → FrontReader symbol fault β}
    {left right : List symbol}
    {value : α}
    {result : β}
    (firstReads : first.ReadsBack left value)
    (nextReads : (next value).ReadsBack right result) :
    (first >>= next).ReadsBack (left ++ right) result := by
  intro rest
  rw [bind_apply, List.append_assoc, firstReads]
  exact nextReads rest

/-- A last step that takes nothing. -/
theorem ReadsBack.bind_nil
    {first : FrontReader symbol fault α}
    {next : α → FrontReader symbol fault β}
    {symbols : List symbol}
    {value : α}
    {result : β}
    (firstReads : first.ReadsBack symbols value)
    (nextReads : (next value).ReadsBack [] result) :
    (first >>= next).ReadsBack symbols result := by
  have both := firstReads.bind nextReads
  rwa [List.append_nil] at both

/-- Two values read back from the front of one input are one value, with the same left
behind it. -/
theorem ReadsBack.eq_of_append_eq
    {reader : FrontReader symbol fault α}
    {left right afterLeft afterRight : List symbol}
    {value other : α}
    (readsLeft : reader.ReadsBack left value)
    (readsRight : reader.ReadsBack right other)
    (sameInput : left ++ afterLeft = right ++ afterRight) :
    value = other ∧ afterLeft = afterRight := by
  have fromLeft := readsLeft afterLeft
  rw [sameInput, readsRight afterRight] at fromLeft
  cases fromLeft
  exact ⟨rfl, rfl⟩

/-- Counting items is reading one and then the others. -/
theorem items_succ (item : FrontReader symbol fault α) (count : Nat) (found : List α) :
    items item (count + 1) found = item >>= fun value => items item count (value :: found) :=
  rfl

/-- Counted items are read back one after another. The induction is on the items
still to come, with those already found as they are. -/
theorem ReadsBack.items
    {item : FrontReader symbol fault α}
    {write : α → List symbol}
    {values : List α}
    (itemReads : ∀ value ∈ values, item.ReadsBack (write value) value)
    (found : List α) :
    (FrontReader.items item values.length found).ReadsBack
      (values.flatMap write) (found.reverse ++ values) := by
  induction values generalizing found with
  | nil =>
      intro rest
      simp [FrontReader.items]
  | cons value others inductionHypothesis =>
      have headReads := itemReads value List.mem_cons_self
      have othersRead :=
        inductionHypothesis
          (fun other member => itemReads other (List.mem_cons_of_mem _ member))
          (value :: found)
      rw [List.length_cons, items_succ, List.flatMap_cons]
      apply headReads.bind
      simpa using othersRead

end BlockCustody.FrontReader
