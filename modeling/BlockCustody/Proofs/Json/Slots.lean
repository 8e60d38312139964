import BlockCustody.Proofs.Json.Members
import Mathlib.Data.List.Pairwise

/-!
Contract: what a record holds after an object was read, in whatever order its members are.

Owns:
- records of which each field keeps a part of its own;
- that these parts are what the object names, and are as before where it names nothing.

Does not own: records whose fields share a part, and the parts of any particular record.
-/

namespace BlockCustody.Json

open Grammar

variable {draft record : Type}

/-! ## Slots -/

/-- A part of a draft: what it is called, how it is read and where it is kept. -/
structure Slot (draft : Type) where
  name : String
  Content : Type
  reader : Reader Content
  content : draft → Content
  put : draft → Content → draft
  content_put : ∀ current value, content (put current value) = value
  ignoresBlanks : IgnoresBlanks reader

/-- The field that keeps its value in the slot. -/
def Slot.field (slot : Slot draft) : RecordField draft :=
  { name := slot.name
    read := fun current => do return slot.put current (← slot.reader) }

/-- The members name a value for the slot, or none. -/
def Slot.Named (slot : Slot draft) (members : List (String × List Char))
    (named : Option slot.Content) : Prop :=
  Names slot.name (TextOf slot.reader) members named

/-- Slots with different names, of which neither is changed by what is put in the other. -/
structure Slot.Apart (slot other : Slot draft) : Prop where
  names : slot.name ≠ other.name
  keepsOther : ∀ current value, other.content (slot.put current value) = other.content current
  isKept : ∀ current value, slot.content (other.put current value) = slot.content current

instance : Std.Symm (@Slot.Apart draft) where
  symm _ _ apart := ⟨apart.names.symm, apart.isKept, apart.keepsOther⟩

section Slots

variable {slots : List (Slot draft)} {members : List (String × List Char)}

theorem Slot.eq_of_name_eq (areApart : slots.Pairwise Slot.Apart) {slot other : Slot draft}
    (isThere : slot ∈ slots) (otherIsThere : other ∈ slots) (sameName : slot.name = other.name) :
    slot = other := by
  by_contra different
  exact (areApart.forall isThere otherIsThere different).names sameName

theorem Slot.find?_field (areApart : slots.Pairwise Slot.Apart) {slot : Slot draft}
    (isThere : slot ∈ slots) :
    (slots.map Slot.field).find? (fun field => field.name = slot.name) = some slot.field := by
  rw [List.find?_map]
  cases isFound : slots.find? ((fun field => decide (field.name = slot.name)) ∘ Slot.field) with
  | none =>
      have notNamed := List.find?_eq_none.mp isFound slot isThere
      exact absurd (decide_eq_true rfl) notNamed
  | some other =>
      have hasName := List.find?_some isFound
      have sameName : other.name = slot.name := of_decide_eq_true hasName
      rw [Slot.eq_of_name_eq areApart (List.mem_of_find?_eq_some isFound) isThere sameName]
      rfl

theorem Slot.find?_field_eq_none {name : String} (isNoName : name ∉ slots.map Slot.name) :
    (slots.map Slot.field).find? (fun field => field.name = name) = none := by
  rw [List.find?_eq_none]
  intro field isThere hasName
  obtain ⟨slot, slotIsThere, rfl⟩ := List.mem_map.mp isThere
  exact isNoName (List.mem_map.mpr ⟨slot, slotIsThere, of_decide_eq_true hasName⟩)

/-- Each slot is named by one member at most, and all other members are values. -/
structure Slot.Understood (slots : List (Slot draft)) (members : List (String × List Char)) :
    Prop where
  named : ∀ slot ∈ slots, ∃ named, slot.Named members named
  others : OthersAreValues (slots.map Slot.name) members

theorem Slot.Understood.tail {member : String × List Char}
    (understood : Slot.Understood slots (member :: members)) :
    Slot.Understood slots members where
  named := fun slot isThere => (understood.named slot isThere).elim fun _ names => names.tail
  others := fun other isThere => understood.others other (List.mem_cons_of_mem _ isThere)

/-- No slot that was seen is named again. -/
def Slot.SeenOnce (slots : List (Slot draft)) (seen : List String)
    (members : List (String × List Char)) : Prop :=
  ∀ slot ∈ slots, slot.name ∈ seen → slot.Named members none

/-- Once a member was read that names a slot, its name is among those seen. -/
theorem Slot.SeenOnce.tail_of_named {seen : List String} {slot : Slot draft} {text : List Char}
    (seenOnce : Slot.SeenOnce slots seen ((slot.name, text) :: members))
    (areApart : slots.Pairwise Slot.Apart) (isThere : slot ∈ slots)
    (nobodyElse : slot.Named members none) :
    Slot.SeenOnce slots (slot.name :: seen) members := by
  intro other otherIsThere wasSeen
  by_cases sameName : slot.name = other.name
  · rw [Slot.eq_of_name_eq areApart isThere otherIsThere sameName] at nobodyElse
    exact nobodyElse
  · rcases List.mem_cons.mp wasSeen with isName | wasSeen
    · exact absurd isName.symm sameName
    · exact (seenOnce other otherIsThere wasSeen).of_ne sameName

/-- The induction is on the members. What was put into a slot stays there, since no member
behind it has the same name. -/
theorem exists_fillsAmong
    (areApart : slots.Pairwise Slot.Apart)
    (understood : Slot.Understood slots members)
    {seen : List String}
    (seenOnce : Slot.SeenOnce slots seen members)
    (current : draft) :
    ∃ filled, FillsAmong (slots.map Slot.field) seen current members filled ∧
      ∀ slot ∈ slots, ∀ named, slot.Named members named →
        slot.content filled = named.getD (slot.content current) := by
  induction members generalizing seen current with
  | nil =>
      refine ⟨current, .done, ?_⟩
      intro slot _ named isNamed
      cases isNamed with
      | nobody => rfl
  | cons member members inductionHypothesis =>
      obtain ⟨name, text⟩ := member
      by_cases isKnown : name ∈ slots.map Slot.name
      · obtain ⟨slot, isThere, rfl⟩ := List.mem_map.mp isKnown
        obtain ⟨named, isNamed⟩ := understood.named slot isThere
        obtain ⟨value, _, isText, nobodyElse⟩ := Names.of_eq isNamed
        have isNew : seen.contains slot.name = false := by
          rw [List.contains_eq_mem, decide_eq_false_iff_not]
          intro wasSeen
          obtain ⟨_, isNone, _⟩ := Names.of_eq (seenOnce slot isThere wasSeen)
          cases isNone
        obtain ⟨filled, fills, areFilled⟩ :=
          inductionHypothesis understood.tail
            (seenOnce.tail_of_named areApart isThere nobodyElse) (slot.put current value)
        refine ⟨filled, .member (Slot.find?_field areApart isThere) isNew
          (slot.ignoresBlanks.bind _) (isText.map (slot.put current)) fills, ?_⟩
        intro other otherIsThere named otherIsNamed
        by_cases same : other = slot
        · subst same
          obtain ⟨_, rfl, isSameText, _⟩ := Names.of_eq otherIsNamed
          rw [areFilled other isThere none nobodyElse, Option.getD_none, other.content_put,
            isText.value_eq isSameText, Option.getD_some]
        · have apart := areApart.forall isThere otherIsThere (Ne.symm same)
          rw [areFilled other otherIsThere named (otherIsNamed.of_ne apart.names),
            apart.keepsOther]
      · have isOther : ∀ slot ∈ slots, name ≠ slot.name := by
          rintro slot isThere rfl
          exact isKnown (List.mem_map_of_mem isThere)
        obtain ⟨filled, fills, areFilled⟩ :=
          inductionHypothesis understood.tail
            (fun slot isThere wasSeen =>
              (seenOnce slot isThere wasSeen).of_ne (isOther slot isThere)) current
        refine ⟨filled, .unknown (Slot.find?_field_eq_none isKnown)
          (understood.others _ List.mem_cons_self isKnown) fills, ?_⟩
        intro slot isThere named isNamed
        exact areFilled slot isThere named (isNamed.of_ne (isOther slot isThere))

end Slots

/-- Slots of a record that are apart and together are all of it. -/
structure Layout (record : Type) where
  slots : List (Slot record)
  areApart : slots.Pairwise Slot.Apart
  ext : ∀ value other : record,
    (∀ slot ∈ slots, slot.content value = slot.content other) → value = other

/-- An object is read as the record that has everywhere what the object names for the slot, or
else what the record had that reading starts from. -/
theorem Layout.textOf_object
    (layout : Layout record)
    {shape : Shape record record}
    (areFields : shape.fields = layout.slots.map Slot.field)
    (isFinished : shape.finish = .ok)
    {members : List (String × List Char)}
    {text : List Char}
    (isObject : Object members text)
    (others : OthersAreValues (layout.slots.map Slot.name) members)
    {value : record}
    (areNamed : ∀ slot ∈ layout.slots, ∃ named, slot.Named members named ∧
      slot.content value = named.getD (slot.content shape.blank)) :
    TextOf shape.read text value := by
  have understood : Slot.Understood layout.slots members :=
    ⟨fun slot isThere => (areNamed slot isThere).imp fun _ isNamed => isNamed.1, others⟩
  obtain ⟨filled, fills, areFilled⟩ :=
    exists_fillsAmong layout.areApart understood
      (fun _ _ wasSeen => absurd wasSeen List.not_mem_nil) shape.blank
  have isValue : filled = value := by
    refine layout.ext filled value fun slot isThere => ?_
    obtain ⟨named, isNamed, isContent⟩ := areNamed slot isThere
    rw [areFilled slot isThere named isNamed, isContent]
  rw [← areFields, isValue] at fills
  exact Shape.textOf_object isObject fills (by rw [isFinished])

end BlockCustody.Json
