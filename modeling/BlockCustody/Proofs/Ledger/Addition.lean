import BlockCustody.Ledger.Basic
import BlockCustody.Proofs.Collections.KeyedMap

/-!
Contract: calls that add a block, and what they leave behind.

Owns:
- the record that an addition writes, and where it can be found;
- when a call goes through, and that it then is the addition;
- the ledger after a call that fails, which has drawn its salts.

Does not own: when calendars run out of time.
-/

namespace BlockCustody.Ledger

variable (ledger : Ledger) (now : Instant) (payload : Bytes) (shards : List ShardId)
variable (holder : PeerId) (validUntil : Instant)

/-- The record that an addition writes, if it writes one. -/
def addedRecord : BlockRecord :=
  { calendar :=
      (EvidenceCalendar.generate payload now validUntil
        ledger.settings.maxWindowHours.toNat ledger.settings.saltLength.toNat ledger.salts).1
    holder, shards, validUntil }

theorem fst_add :
    (ledger.add now payload shards holder validUntil).1 = ContentId.ofContent payload := by
  simp only [add]
  split <;> rfl

/-- After an addition the block has its earlier record or the one just written, and
every other block has its own. -/
theorem record?_add (id : BlockId) :
    (ledger.add now payload shards holder validUntil).2.record? id =
      if id = ContentId.ofContent payload ∧ ledger.contains id = false then
        some (ledger.addedRecord now payload shards holder validUntil)
      else ledger.record? id := by
  unfold add
  by_cases present : ledger.blocks.contains (ContentId.ofContent payload) = true
  · have notNew : ¬ (id = ContentId.ofContent payload ∧ ledger.contains id = false) := by
      rintro ⟨rfl, absent⟩
      rw [contains, present] at absent
      cases absent
    rw [if_pos present, if_neg notNew]
  · rw [if_neg present]
    have found :=
      KeyedMap.find?_insert ledger.blocks (ContentId.ofContent payload) id
        (ledger.addedRecord now payload shards holder validUntil)
    by_cases isAdded : id = ContentId.ofContent payload
    · subst isAdded
      rw [if_pos ⟨rfl, Bool.eq_false_iff.mpr present⟩]
      rw [if_pos rfl] at found
      exact found
    · rw [if_neg fun new => isAdded new.1]
      rw [if_neg isAdded] at found
      exact found

/-- An addition of a block that is there draws no salts and changes nothing. -/
theorem add_of_contains (present : ledger.contains (ContentId.ofContent payload) = true) :
    ledger.add now payload shards holder validUntil = (ContentId.ofContent payload, ledger) := by
  rw [contains] at present
  simp only [add, present, if_true]

theorem settings_add :
    (ledger.add now payload shards holder validUntil).2.settings = ledger.settings := by
  simp only [add]
  split <;> rfl

/-! ## Calls that go through -/

/-- A block is registered as it is added, unless it is new and has no last hour. -/
theorem register_eq :
    ledger.register now payload shards holder validUntil =
      if ledger.contains (ContentId.ofContent payload) = false ∧
          (ledger.addedRecord now payload shards holder validUntil).calendar.lastHour? = none then
        .error { block := ContentId.ofContent payload }
      else .ok (ledger.add now payload shards holder validUntil) := by
  unfold register
  cases present : ledger.blocks.contains (ContentId.ofContent payload) with
  | true =>
      have notNew : ¬ ledger.contains (ContentId.ofContent payload) = false := by
        rw [contains, present]
        decide
      rw [if_pos rfl, if_neg fun new => notNew new.1, add_of_contains _ _ _ _ _ _ present]
  | false =>
      have recorded := record?_add ledger now payload shards holder validUntil
        (ContentId.ofContent payload)
      have isId := fst_add ledger now payload shards holder validUntil
      rw [if_pos ⟨rfl, present⟩, record?] at recorded
      simp only [Bool.false_eq_true, if_false, contains, present, true_and]
      rw [isId, recorded, Option.bind_some]
      cases (ledger.addedRecord now payload shards holder validUntil).calendar.lastHour? with
      | none => simp
      | some last => simp [← isId]

variable {ledger now payload shards holder validUntil} in
/-- A call that goes through leaves what the addition leaves. -/
theorem add_of_register_eq_ok {id : BlockId} {later : Ledger}
    (goesThrough : ledger.register now payload shards holder validUntil = .ok (id, later)) :
    later = (ledger.add now payload shards holder validUntil).2 := by
  rw [register_eq] at goesThrough
  split at goesThrough
  · cases goesThrough
  · rw [Except.ok.inj goesThrough]

/-- A block that is already there is registered again without a change. -/
theorem register_of_contains
    (present : ledger.contains (ContentId.ofContent payload) = true) :
    ledger.register now payload shards holder validUntil =
      .ok (ContentId.ofContent payload, ledger) := by
  rw [register_eq, present, if_neg (by simp), add_of_contains _ _ _ _ _ _ present]

/-! ## After a call -/

/-- The ledger after a call that adds a block. A call that fails leaves every record as it
is, but the salts of the calendar that it made are gone. -/
def afterAddition : Ledger :=
  match ledger.register now payload shards holder validUntil with
  | .ok (_, later) => later
  | .error _ => { ledger with salts := (ledger.add now payload shards holder validUntil).2.salts }

variable {ledger now payload shards holder validUntil} in
theorem afterAddition_of_register_eq_ok {id : BlockId} {later : Ledger}
    (goesThrough : ledger.register now payload shards holder validUntil = .ok (id, later)) :
    ledger.afterAddition now payload shards holder validUntil =
      (ledger.add now payload shards holder validUntil).2 := by
  rw [afterAddition, goesThrough, ← add_of_register_eq_ok goesThrough]

variable {ledger now payload shards holder validUntil} in
theorem blocks_afterAddition_of_register_eq_error {fault : EndOfTime}
    (fails : ledger.register now payload shards holder validUntil = .error fault) :
    (ledger.afterAddition now payload shards holder validUntil).blocks = ledger.blocks := by
  rw [afterAddition, fails]

theorem afterAddition_eq :
    ledger.afterAddition now payload shards holder validUntil =
      if ledger.contains (ContentId.ofContent payload) = false ∧
          (ledger.addedRecord now payload shards holder validUntil).calendar.lastHour? = none then
        { ledger with salts := (ledger.add now payload shards holder validUntil).2.salts }
      else (ledger.add now payload shards holder validUntil).2 := by
  rw [afterAddition, register_eq]
  by_cases fails :
      ledger.contains (ContentId.ofContent payload) = false ∧
        (ledger.addedRecord now payload shards holder validUntil).calendar.lastHour? = none
  · rw [if_pos fails, if_pos fails]
  · rw [if_neg fails, if_neg fails]

/-- A new block has the record of the addition if the call went through. -/
theorem record?_afterAddition (id : BlockId) :
    (ledger.afterAddition now payload shards holder validUntil).record? id =
      if (id = ContentId.ofContent payload ∧ ledger.contains id = false) ∧
          (ledger.addedRecord now payload shards holder validUntil).calendar.lastHour? ≠ none then
        some (ledger.addedRecord now payload shards holder validUntil)
      else ledger.record? id := by
  rw [afterAddition_eq]
  split
  · next fails =>
      rw [if_neg fun entered => entered.2 fails.2]
      rfl
  · next goesThrough =>
      rw [record?_add]
      by_cases new : id = ContentId.ofContent payload ∧ ledger.contains id = false
      · rw [if_pos new, if_pos]
        refine ⟨new, fun noLastHour => goesThrough ⟨?_, noLastHour⟩⟩
        rw [← new.1]
        exact new.2
      · rw [if_neg new, if_neg fun entered => new entered.1]

/-- Whether or not a call goes through, it draws the salts of the addition. -/
theorem salts_afterAddition :
    (ledger.afterAddition now payload shards holder validUntil).salts =
      (ledger.add now payload shards holder validUntil).2.salts := by
  rw [afterAddition_eq]
  split <;> rfl

theorem settings_afterAddition :
    (ledger.afterAddition now payload shards holder validUntil).settings = ledger.settings := by
  rw [afterAddition_eq]
  split
  · rfl
  · exact settings_add ledger now payload shards holder validUntil

theorem afterAddition_of_contains
    (present : ledger.contains (ContentId.ofContent payload) = true) :
    ledger.afterAddition now payload shards holder validUntil = ledger := by
  rw [afterAddition, register_of_contains _ _ _ _ _ _ present]

end BlockCustody.Ledger
