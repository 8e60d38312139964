import BlockCustody.Proofs.Collections.Histories
import BlockCustody.Proofs.Shards.Rows

/-!
Contract: what a shard store holds after any history.

Owns:
- the events of a store, opening it again under another limit included, and runs of them;
- when a shard is entered, and that it stays with its bytes and its time until it is
  deleted;
- that both tables stay in step, and the limit is kept by every shard that is entered.

Does not own: rows that others have written.
-/

namespace BlockCustody

/-- What happens to a store. Reading changes nothing and is no event. -/
inductive StoreEvent where
  | put (now : Int) (id : ShardId) (content : Bytes)
  | deleted (id : ShardId)
  | reopened (maxGigabytes : Nat)
deriving DecidableEq

namespace ShardStore

/-- The store after an event. A refused shard leaves it as it is. -/
def after (store : ShardStore) : StoreEvent → ShardStore
  | .put now id content =>
      match store.put now id content with
      | .ok later => later
      | .error _ => store
  | .deleted id => store.delete id
  | .reopened maxGigabytes => store.reopen maxGigabytes

/-- The store after events in the order in which they happened. -/
def run (store : ShardStore) (history : List StoreEvent) : ShardStore :=
  history.foldl after store

/-- The store enters the shard if it is put: it is new, it is what its id names, and it
fits. -/
def Admits (store : ShardStore) (id : ShardId) (content : Bytes) : Prop :=
  id.names content = true ∧ store.has id = false ∧
    store.totalSize + content.length ≤ store.byteLimit

/-- The gigabytes that a store was last opened with. -/
def gigabytesAfter (maxGigabytes : Nat) (history : List StoreEvent) : Nat :=
  history.foldl
    (fun gigabytes event =>
      match event with
      | .put _ _ _ => gigabytes
      | .deleted _ => gigabytes
      | .reopened maxGigabytes => maxGigabytes)
    maxGigabytes

/-- The shard was entered at that time, into a store that started empty, and has not been
deleted since. -/
def StoredAt (maxGigabytes : Nat) (history : List StoreEvent) (now : Int) (id : ShardId)
    (content : Bytes) : Prop :=
  Lasts
    (fun before event =>
      event = .put now id content ∧ ((empty maxGigabytes).run before).Admits id content)
    (fun since => since = .deleted id) history

/-- How many bytes there are to read under an id. -/
def readableLength (store : ShardStore) (id : ShardId) : Nat :=
  match store.get id with
  | .ok content => content.length
  | .error _ => 0

variable {store later : ShardStore} {id : ShardId} {content : Bytes} {now : Int}

/-! ## Putting and getting -/

theorem put_of_not_named (notNamed : id.names content = false) :
    store.put now id content = .error (.contentMismatch id) := by
  simp [put, notNamed]

theorem put_of_present (named : id.names content = true) (present : store.has id = true) :
    store.put now id content = .ok store := by
  simp [put, named, present]

theorem put_of_new (named : id.names content = true) (absent : store.has id = false) :
    store.put now id content =
      if store.byteLimit < store.totalSize + content.length then .error .full
      else .ok (store.enter now id content) := by
  simp [put, named, absent, enter]

/-- A put that succeeds finds a row under the id and leaves it, or enters the shard. -/
theorem put_eq_ok_iff :
    store.put now id content = .ok later ↔
      id.names content = true ∧
        (store.has id = true ∧ later = store ∨
          store.Admits id content ∧ later = store.enter now id content) := by
  cases named : id.names content with
  | false => simp [put_of_not_named named]
  | true =>
      cases present : store.has id with
      | true =>
          rw [put_of_present named present, Except.ok.injEq]
          constructor
          · rintro rfl
            exact ⟨rfl, Or.inl ⟨rfl, rfl⟩⟩
          · rintro ⟨_, ⟨_, rfl⟩ | ⟨admits, _⟩⟩
            · rfl
            · cases present.symm.trans admits.2.1
      | false =>
          rw [put_of_new named present]
          split
          · next full =>
              simp only [reduceCtorEq, Bool.false_eq_true, false_and, false_or, true_and, false_iff]
              rintro ⟨admits, _⟩
              exact Nat.not_le.mpr full admits.2.2
          · next fits =>
              rw [Except.ok.injEq]
              constructor
              · rintro rfl
                exact ⟨rfl, Or.inr ⟨⟨named, present, Nat.not_lt.mp fits⟩, rfl⟩⟩
              · rintro ⟨_, ⟨impossible, _⟩ | ⟨_, rfl⟩⟩
                · cases impossible
                · rfl

/-- A shard that is put is entered, or changes nothing. -/
theorem after_put_cases (store : ShardStore) (now : Int) (id : ShardId) (content : Bytes) :
    store.Admits id content ∧ store.after (.put now id content) = store.enter now id content ∨
      ¬ store.Admits id content ∧ store.after (.put now id content) = store := by
  rw [after]
  by_cases admits : store.Admits id content
  · have isPut : store.put now id content = .ok (store.enter now id content) :=
      put_eq_ok_iff.mpr ⟨admits.1, Or.inr ⟨admits, rfl⟩⟩
    rw [isPut]
    exact Or.inl ⟨admits, rfl⟩
  · refine Or.inr ⟨admits, ?_⟩
    cases isPut : store.put now id content with
    | error fault => rfl
    | ok later =>
        obtain ⟨_, ⟨_, same⟩ | ⟨admitted, _⟩⟩ := put_eq_ok_iff.mp isPut
        · exact same
        · exact absurd admitted admits

theorem get_eq_ok_iff :
    store.get id = .ok content ↔
      store.content? id = some content ∧ id.names content = true := by
  rw [get, content?]
  cases store.shards.find? id.bytes with
  | none => simp
  | some stored =>
      simp only [Option.some.injEq]
      split
      · next named =>
          rw [Except.ok.injEq]
          constructor
          · rintro rfl
            exact ⟨rfl, named⟩
          · exact And.left
      · next notNamed =>
          simp only [reduceCtorEq, false_iff]
          rintro ⟨rfl, named⟩
          exact notNamed named

/-! ## One event -/

/-- After a shard is put there is what was there, and the shard if it is admitted. -/
theorem content?_after_put {putId : ShardId} {putContent : Bytes} :
    (store.after (.put now putId putContent)).content? id = some content ↔
      (putId = id ∧ putContent = content ∧ store.Admits id content) ∨
        store.content? id = some content := by
  rcases after_put_cases store now putId putContent with ⟨admits, entered⟩ | ⟨refused, same⟩
  · rw [entered, content?_enter]
    by_cases isPut : id = putId
    · subst isPut
      have absent := has_eq_false_iff.mp admits.2.1
      rw [if_pos rfl, absent]
      constructor
      · intro isContent
        cases isContent
        exact Or.inl ⟨rfl, rfl, admits⟩
      · rintro (⟨_, rfl, _⟩ | present)
        · rfl
        · cases present
    · simp [isPut, Ne.symm isPut]
  · rw [same]
    refine ⟨Or.inr, ?_⟩
    rintro (⟨rfl, rfl, admits⟩ | present)
    · exact absurd admits refused
    · exact present

/-- After an event there is what it entered, or what was there and is not deleted. -/
theorem content?_after {event : StoreEvent} :
    (store.after event).content? id = some content ↔
      (∃ now, event = .put now id content ∧ store.Admits id content) ∨
        store.content? id = some content ∧ ¬ event = .deleted id := by
  cases event with
  | put now putId putContent => simp [content?_after_put, and_assoc]
  | deleted gone =>
      rw [after, content?_delete]
      by_cases isGone : id = gone
      · simp [isGone]
      · simp [isGone, Ne.symm isGone]
  | reopened maxGigabytes =>
      simp [after, reopen, content?]

/-- The time of a shard stays as it was written. -/
theorem find?_timeKey_after
    {event : StoreEvent}
    {row : Bytes}
    (present : store.has id = true)
    (dated : store.metadata.find? (timeKey id) = some row)
    (kept : ¬ event = .deleted id) :
    (store.after event).metadata.find? (timeKey id) = some row := by
  cases event with
  | put now putId putContent =>
      rcases after_put_cases store now putId putContent with ⟨admits, entered⟩ | ⟨_, same⟩
      · have isOther : timeKey id ≠ timeKey putId := by
          intro sameKey
          have absent := admits.2.1
          rw [← timeKey_injective sameKey, present] at absent
          cases absent
        rw [entered, enter, KeyedMap.find?_insert_of_ne _ isOther]
        exact dated
      · rwa [same]
  | deleted gone =>
      have isOther : timeKey id ≠ timeKey gone :=
        fun sameKey => kept (by rw [timeKey_injective sameKey])
      rw [after, delete, KeyedMap.find?_erase, if_neg isOther]
      exact dated
  | reopened maxGigabytes => exact dated

/-- The tables are in step: shards are under the ids of their contents, and there is a time
for no others. -/
structure InStep (store : ShardStore) : Prop where
  named : store.Named
  dated : ∀ key row, store.metadata.find? key = some row →
    ∃ id, timeKey id = key ∧ store.has id = true

theorem empty_inStep (maxGigabytes : Nat) : (empty maxGigabytes).InStep where
  named := by
    intro key content found
    cases found
  dated := by
    intro key row found
    cases found

theorem InStep.enter
    (inStep : store.InStep)
    (named : id.names content = true)
    (now : Int) :
    (store.enter now id content).InStep where
  named := by
    intro key row found
    rw [ShardStore.enter, KeyedMap.find?_insert] at found
    split at found
    · next isEntered =>
        cases found
        exact ⟨id, isEntered.symm, named⟩
    · exact inStep.named key row found
  dated := by
    intro key row found
    rw [ShardStore.enter, KeyedMap.find?_insert] at found
    split at found
    · next isEntered =>
        refine ⟨id, isEntered.symm, has_eq_true_iff.mpr ⟨content, ?_⟩⟩
        rw [content?_enter, if_pos rfl]
    · obtain ⟨present, isKey, isPresent⟩ := inStep.dated key row found
      obtain ⟨previous, isContent⟩ := has_eq_true_iff.mp isPresent
      refine ⟨present, isKey, has_eq_true_iff.mpr ?_⟩
      rw [content?_enter]
      split
      · exact ⟨content, rfl⟩
      · exact ⟨previous, isContent⟩

theorem InStep.delete (inStep : store.InStep) (gone : ShardId) : (store.delete gone).InStep where
  named := by
    intro key row found
    rw [ShardStore.delete, KeyedMap.find?_erase] at found
    split at found
    · cases found
    · exact inStep.named key row found
  dated := by
    intro key row found
    rw [ShardStore.delete, KeyedMap.find?_erase] at found
    split at found
    · cases found
    · next isOther =>
        obtain ⟨present, isKey, isPresent⟩ := inStep.dated key row found
        refine ⟨present, isKey, ?_⟩
        have notGone : present ≠ gone := fun same => isOther (by rw [← isKey, same])
        rw [has_eq_true_iff, content?_delete, if_neg notGone, ← has_eq_true_iff]
        exact isPresent

theorem InStep.after (inStep : store.InStep) (event : StoreEvent) :
    (store.after event).InStep := by
  cases event with
  | put now id content =>
      rcases after_put_cases store now id content with ⟨admits, entered⟩ | ⟨_, same⟩
      · rw [entered]
        exact inStep.enter admits.1 now
      · rwa [same]
  | deleted gone => exact inStep.delete gone
  | reopened maxGigabytes => exact ⟨inStep.named, inStep.dated⟩

theorem byteLimit_after_put (store : ShardStore) (now : Int) (id : ShardId) (content : Bytes) :
    (store.after (.put now id content)).byteLimit = store.byteLimit := by
  rcases after_put_cases store now id content with ⟨_, entered⟩ | ⟨_, same⟩
  · rw [entered]
    rfl
  · rw [same]

/-! ## Reading -/

theorem InStep.names_of_content? (inStep : store.InStep)
    (found : store.content? id = some content) : id.names content = true := by
  obtain ⟨named, sameBytes, isNamed⟩ := inStep.named _ _ found
  rwa [← ContentId.eq_of_bytes_eq sameBytes]

theorem InStep.get_eq_ok_iff (inStep : store.InStep) :
    store.get id = .ok content ↔ store.content? id = some content := by
  rw [ShardStore.get_eq_ok_iff]
  exact and_iff_left_of_imp inStep.names_of_content?

/-! ## Histories -/

theorem run_append_singleton (store : ShardStore) (history : List StoreEvent)
    (event : StoreEvent) :
    store.run (history ++ [event]) = (store.run history).after event :=
  List.foldl_concat ..

section FromEmpty

variable {maxGigabytes : Nat} {history : List StoreEvent}

theorem run_inStep (maxGigabytes : Nat) (history : List StoreEvent) :
    ((empty maxGigabytes).run history).InStep := by
  induction history using List.reverseRecOn with
  | nil => exact empty_inStep maxGigabytes
  | append_singleton history event inductionHypothesis =>
      rw [run_append_singleton]
      exact inductionHypothesis.after event

theorem byteLimit_run (maxGigabytes : Nat) (history : List StoreEvent) :
    ((empty maxGigabytes).run history).byteLimit =
      gigabytesAfter maxGigabytes history * bytesPerGigabyte := by
  induction history using List.reverseRecOn with
  | nil => rfl
  | append_singleton history event inductionHypothesis =>
      rw [run_append_singleton, gigabytesAfter, List.foldl_concat]
      cases event with
      | put now id content => rw [byteLimit_after_put, inductionHypothesis, gigabytesAfter]
      | deleted gone => exact inductionHypothesis
      | reopened maxGigabytes => rfl

theorem content?_run_eq_some_iff :
    ((empty maxGigabytes).run history).content? id = some content ↔
      ∃ now, StoredAt maxGigabytes history now id content := by
  induction history using List.reverseRecOn with
  | nil => simp [run, empty, content?, StoredAt, not_lasts_nil]
  | append_singleton history event inductionHypothesis =>
      simp only [run_append_singleton, content?_after, inductionHypothesis, StoredAt,
        lasts_append_singleton, exists_or, exists_and_right]

theorem find?_timeKey_run (stored : StoredAt maxGigabytes history now id content) :
    ((empty maxGigabytes).run history).metadata.find? (timeKey id) = some (writeTime now) := by
  induction history using List.reverseRecOn with
  | nil => exact absurd stored not_lasts_nil
  | append_singleton history event inductionHypothesis =>
      rw [run_append_singleton]
      rcases lasts_append_singleton.mp stored with ⟨rfl, admits⟩ | ⟨storedBefore, kept⟩
      · rw [after, put_of_new admits.1 admits.2.1, if_neg (Nat.not_lt.mpr admits.2.2)]
        exact KeyedMap.find?_insert_self _ _ _
      · -- Only a new shard gets a time, so that of a stored one is not written over.
        have isContent := content?_run_eq_some_iff.mpr ⟨now, storedBefore⟩
        have present := has_eq_true_iff.mpr ⟨content, isContent⟩
        exact find?_timeKey_after present (inductionHypothesis storedBefore) kept

end FromEmpty

end ShardStore

end BlockCustody
