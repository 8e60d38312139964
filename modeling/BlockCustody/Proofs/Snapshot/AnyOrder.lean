import BlockCustody.Proofs.Collections.KeySet
import BlockCustody.Proofs.Snapshot.Restoring

/-!
Contract: written forms of sets in which the members stand in any order.

Owns:
- the forms of a set, and of a map whose values have several forms;
- that a set and such a map are read back from each of their forms.

Does not own: in which order a set happens to be written.
-/

namespace BlockCustody

namespace Snapshot

variable {α key value : Type}

/-- These bytes are one of the forms that a value can be written in. -/
abbrev WrittenAs (α : Type) := α → Bytes → Prop

/-- The reader gives back a value from any of its forms, as long as lengths can be counted. -/
def RestoresEach (reader : Reader α) (form : WrittenAs α) : Prop :=
  ∀ value written, form value written → Countable written → reader.ReadsBack written value

/-- The number of members, then the members in some order. -/
def setForm [OrderedKey key] (writeKey : key → Bytes) : WrittenAs (KeySet key) :=
  fun set written => ∃ members : List key, members.Perm set.keys ∧
    written = writeList writeKey members

/-- The entries in the order of their keys, each value in one of its forms. -/
def mapForm [OrderedKey key] (writeKey : key → Bytes) (valueForm : WrittenAs value) :
    WrittenAs (KeyedMap key value) :=
  fun map written => ∃ formOf : key → value → Bytes,
    (∀ entry ∈ map.entries, valueForm entry.2 (formOf entry.1 entry.2)) ∧
      written = writeList (fun entry => writeKey entry.1 ++ formOf entry.1 entry.2) map.entries

theorem setForm_writeSet [OrderedKey key] (writeKey : key → Bytes) (set : KeySet key) :
    setForm writeKey set (writeSet writeKey set) :=
  ⟨set.keys, List.Perm.refl _, rfl⟩

theorem mapForm_writeMap
    [OrderedKey key]
    {writeKey : key → Bytes}
    {writeValue : value → Bytes}
    {valueForm : WrittenAs value}
    (isForm : ∀ present, valueForm present (writeValue present))
    (map : KeyedMap key value) :
    mapForm writeKey valueForm map (writeMap writeKey writeValue map) :=
  ⟨fun _ => writeValue, fun entry _ => isForm entry.2, rfl⟩

theorem set_restoresEach
    [OrderedKey key]
    [DecidableEq key]
    {readKey : Reader key}
    {writeKey : key → Bytes}
    (keyRestores : Restores readKey writeKey)
    (keyNonempty : ∀ present, 0 < (writeKey present).length) :
    RestoresEach (Reader.set readKey) (setForm writeKey) := by
  rintro set _ ⟨members, inSomeOrder, rfl⟩ countable
  refine (list_restores keyRestores keyNonempty members countable).bind_nil ?_
  rw [KeySet.ofList_of_perm_keys inSomeOrder]
  exact FrontReader.readsBack_pure set

theorem map_restoresEach
    [OrderedKey key]
    {readKey : Reader key}
    {writeKey : key → Bytes}
    {readValue : Reader value}
    {valueForm : WrittenAs value}
    (keyRestores : Restores readKey writeKey)
    (keyNonempty : ∀ present, 0 < (writeKey present).length)
    (valueRestores : RestoresEach readValue valueForm) :
    RestoresEach (Reader.map readKey readValue) (mapForm writeKey valueForm) := by
  rintro map _ ⟨formOf, isForm, rfl⟩ countable
  exact map_readsBack formOf map keyRestores keyNonempty
    (fun entry member => valueRestores entry.2 _ (isForm entry member)) countable

end Snapshot

end BlockCustody
