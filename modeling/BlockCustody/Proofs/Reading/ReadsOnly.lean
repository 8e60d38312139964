import BlockCustody.Proofs.Reading.ReadsBack

/-!
Contract: readers that find nothing but certain forms.

Owns:
- when every value a reader returns stood in front, in one of its forms;
- when every value a reader returns is of some kind, however it stood there;
- that both compose over reading one thing after another and over counted
  like things.

Does not own: any format, and whether a form that stands in front is found.
-/

namespace BlockCustody.FrontReader

variable {symbol fault α β : Type}

/-- Where the reader returns a value, one of the value's forms stood in front of what it
leaves. -/
def ReadsOnly (reader : FrontReader symbol fault α) (form : α → List symbol → Prop) : Prop :=
  ∀ input value rest, reader input = .ok (value, rest) →
    ∃ taken, form value taken ∧ input = taken ++ rest

theorem readsOnly_pure
    {form : α → List symbol → Prop}
    {value : α}
    (isForm : form value []) :
    ReadsOnly (pure value : FrontReader symbol fault α) form := by
  intro input found rest isRead
  cases isRead
  exact ⟨[], isForm, rfl⟩

theorem readsOnly_refuse (reason : fault) (form : α → List symbol → Prop) :
    ReadsOnly (refuse reason : FrontReader symbol fault α) form := by
  intro input found rest isRead
  cases isRead

/-- After a form of the first value, the second reader has to complete a form of the
result. -/
theorem ReadsOnly.bind
    {first : FrontReader symbol fault α}
    {next : α → FrontReader symbol fault β}
    {firstForm : α → List symbol → Prop}
    {form : β → List symbol → Prop}
    (firstOnly : first.ReadsOnly firstForm)
    (nextOnly : ∀ value taken, firstForm value taken →
      (next value).ReadsOnly fun result more => form result (taken ++ more)) :
    (first >>= next).ReadsOnly form := by
  intro input result rest isRead
  rw [bind_apply] at isRead
  split at isRead
  · cases isRead
  · next value middle firstRead =>
      obtain ⟨taken, isFirst, rfl⟩ := firstOnly _ _ _ firstRead
      obtain ⟨more, isForm, rfl⟩ := nextOnly value taken isFirst _ _ _ isRead
      exact ⟨taken ++ more, isForm, (List.append_assoc taken more rest).symm⟩

/-- Counted items are found one after another. The induction is on the count, with the
items already found as they are. -/
theorem ReadsOnly.items
    {item : FrontReader symbol fault α}
    {write : α → List symbol}
    {valid : α → Prop}
    (itemOnly : item.ReadsOnly fun value taken => valid value ∧ taken = write value)
    (count : Nat)
    (found : List α) :
    (FrontReader.items item count found).ReadsOnly fun values taken =>
      ∃ others, values = found.reverse ++ others ∧ others.length = count ∧
        (∀ value ∈ others, valid value) ∧ taken = others.flatMap write := by
  induction count generalizing found with
  | zero =>
      apply readsOnly_pure
      refine ⟨[], ?_, rfl, ?_, rfl⟩
      · rw [List.append_nil]
      · intro value member
        cases member
  | succ count inductionHypothesis =>
      rw [items_succ]
      apply itemOnly.bind
      rintro value _ ⟨isValid, rfl⟩ input values rest isRead
      obtain ⟨_, ⟨others, isValues, length, othersValid, rfl⟩, isInput⟩ :=
        inductionHypothesis (value :: found) _ _ _ isRead
      refine ⟨others.flatMap write, ⟨value :: others, ?_, ?_, ?_, ?_⟩, isInput⟩
      · simp [isValues]
      · rw [List.length_cons, length]
      · intro present member
        rcases List.mem_cons.mp member with rfl | later
        · exact isValid
        · exact othersValid present later
      · rw [List.flatMap_cons]

/-! ## Kinds of values -/

/-- Every value that the reader returns is of this kind. -/
def Finds (reader : FrontReader symbol fault α) (kind : α → Prop) : Prop :=
  ∀ input value rest, reader input = .ok (value, rest) → kind value

theorem finds_any (reader : FrontReader symbol fault α) : reader.Finds fun _ => True :=
  fun _ _ _ _ => trivial

theorem finds_pure {kind : α → Prop} {value : α} (isKind : kind value) :
    Finds (pure value : FrontReader symbol fault α) kind := by
  intro input found rest isRead
  cases isRead
  exact isKind

theorem finds_refuse (reason : fault) (kind : α → Prop) :
    Finds (refuse reason : FrontReader symbol fault α) kind := by
  intro input found rest isRead
  cases isRead

theorem Finds.bind
    {first : FrontReader symbol fault α}
    {next : α → FrontReader symbol fault β}
    {firstKind : α → Prop}
    {kind : β → Prop}
    (firstFinds : first.Finds firstKind)
    (nextFinds : ∀ value, firstKind value → (next value).Finds kind) :
    (first >>= next).Finds kind := by
  intro input result rest isRead
  rw [bind_apply] at isRead
  split at isRead
  · cases isRead
  · next value middle firstRead =>
      exact nextFinds value (firstFinds _ _ _ firstRead) _ _ _ isRead

theorem Finds.items
    {item : FrontReader symbol fault α}
    {kind : α → Prop}
    (itemFinds : item.Finds kind)
    (count : Nat)
    {found : List α}
    (foundKind : ∀ value ∈ found, kind value) :
    (FrontReader.items item count found).Finds fun values => ∀ value ∈ values, kind value := by
  induction count generalizing found with
  | zero =>
      apply finds_pure
      intro value member
      exact foundKind value (List.mem_reverse.mp member)
  | succ count inductionHypothesis =>
      rw [items_succ]
      refine itemFinds.bind fun value isKind => inductionHypothesis ?_
      intro present member
      rcases List.mem_cons.mp member with rfl | earlier
      · exact isKind
      · exact foundKind present earlier

end BlockCustody.FrontReader
