import BlockCustody.Proofs.Content.Collision
import BlockCustody.Proofs.Shards.History

/-!
Contract: shards whose stored bytes have rotted.

Owns:
- what can be read right after a put that succeeds, whatever rows the store has;
- that a rotted shard stays as it is, put again or not, until it is deleted.

Does not own: stores in which every row is what its key names.
-/

namespace BlockCustody

namespace ShardStore

/-- The bytes under an id are no longer what it names. -/
def Rotted (store : ShardStore) (id : ShardId) : Prop :=
  ∃ stored, store.content? id = some stored ∧ id.names stored = false

variable {store later : ShardStore} {id : ShardId} {content : Bytes} {now : Int}

theorem get_eq_contentMismatch_iff :
    store.get id = .error (.contentMismatch id) ↔ store.Rotted id := by
  rw [get, Rotted, content?]
  cases store.shards.find? id.bytes with
  | none => simp
  | some stored => cases named : id.names stored <;> simp [named]

/-! ## Putting over any rows -/

/-- After a put that succeeds there is the row that was there, or else the content. -/
theorem content?_of_put (isPut : store.put now id content = .ok later) :
    later.content? id = some ((store.content? id).getD content) := by
  obtain ⟨_, ⟨present, rfl⟩ | ⟨admits, rfl⟩⟩ := put_eq_ok_iff.mp isPut
  · obtain ⟨stored, found⟩ := has_eq_true_iff.mp present
    rw [found, Option.getD_some]
  · rw [content?_enter, if_pos rfl, has_eq_false_iff.mp admits.2.1, Option.getD_none]

theorem get_of_put_eq_ok_iff (isPut : store.put now id content = .ok later) :
    later.get id = .ok content ↔
      store.content? id = none ∨ store.content? id = some content := by
  have named := (put_eq_ok_iff.mp isPut).1
  rw [get_eq_ok_iff, content?_of_put isPut]
  cases store.content? id with
  | none => simp [named]
  | some stored => simp [named]

/-- Short of a collision, a shard that was not rotted can be read after it was put. -/
theorem exists_get_of_put
    (isPut : store.put now id content = .ok later)
    (sound : ¬ store.Rotted id) :
    ∃ read, later.get id = .ok read ∧ (read = content ∨ Collide read content) := by
  have named := (put_eq_ok_iff.mp isPut).1
  have found := content?_of_put isPut
  cases row : store.content? id with
  | none =>
      rw [row, Option.getD_none] at found
      exact ⟨content, get_eq_ok_iff.mpr ⟨found, named⟩, Or.inl rfl⟩
  | some stored =>
      rw [row, Option.getD_some] at found
      have storedNamed : id.names stored = true := by
        apply Bool.of_not_eq_false
        intro notNamed
        exact sound ⟨stored, row, notNamed⟩
      exact ⟨stored, get_eq_ok_iff.mpr ⟨found, storedNamed⟩,
        eq_or_collide_of_names storedNamed named⟩

/-! ## Rot over time -/

theorem eq_of_put_of_rotted
    (rotted : store.Rotted id)
    (isPut : store.put now id content = .ok later) :
    later = store := by
  obtain ⟨stored, found, _⟩ := rotted
  have present : store.has id = true := has_eq_true_iff.mpr ⟨stored, found⟩
  obtain ⟨_, ⟨_, same⟩ | ⟨admits, _⟩⟩ := put_eq_ok_iff.mp isPut
  · exact same
  · rw [admits.2.1] at present
    cases present

/-- Only deleting a rotted shard does anything about it. -/
theorem Rotted.after {event : StoreEvent} (rotted : store.Rotted id)
    (kept : event ≠ .deleted id) :
    (store.after event).Rotted id := by
  obtain ⟨stored, found, notNamed⟩ := rotted
  exact ⟨stored, content?_after.mpr (Or.inr ⟨found, kept⟩), notNamed⟩

theorem Rotted.run {history : List StoreEvent} (rotted : store.Rotted id)
    (kept : StoreEvent.deleted id ∉ history) :
    (store.run history).Rotted id := by
  induction history generalizing store with
  | nil => exact rotted
  | cons event others inductionHypothesis =>
      rw [List.mem_cons, not_or] at kept
      exact inductionHypothesis (rotted.after (Ne.symm kept.1)) kept.2

/-- A shard that is deleted can be put and read again if it fits. -/
theorem get_of_put_of_delete
    (named : id.names content = true)
    (fits : (store.delete id).totalSize + content.length ≤ store.byteLimit)
    (now : Int) :
    ∃ repaired, (store.delete id).put now id content = .ok repaired ∧
      repaired.get id = .ok content := by
  have gone : (store.delete id).content? id = none := by
    rw [content?_delete, if_pos rfl]
  have admits : (store.delete id).Admits id content := ⟨named, has_eq_false_iff.mpr gone, fits⟩
  have isPut :
      (store.delete id).put now id content = .ok ((store.delete id).enter now id content) :=
    put_eq_ok_iff.mpr ⟨named, Or.inr ⟨admits, rfl⟩⟩
  exact ⟨_, isPut, (get_of_put_eq_ok_iff isPut).mpr (Or.inl gone)⟩

/-- Whatever rows a store has: after a put that succeeds the shard can be read as it was
put, unless other bytes were there already. If those are still what the id names, they are
read, and are the same short of a collision. If they have rotted, the put has changed
nothing, and the shard cannot be read after any history that does not delete it; once it
is deleted it can be put and read again if it fits. -/
theorem put_shard_is_readable_unless_rotted
    (store : ShardStore)
    (now : Int)
    (id : ShardId)
    (content : Bytes)
    (later : ShardStore)
    (isPut : store.put now id content = .ok later) :
    (later.get id = .ok content ↔
      store.content? id = none ∨ store.content? id = some content) ∧
      (¬ store.Rotted id →
        ∃ read, later.get id = .ok read ∧ (read = content ∨ Collide read content)) ∧
      (store.Rotted id →
        later = store ∧
          (∀ history, StoreEvent.deleted id ∉ history →
            (later.run history).get id = .error (.contentMismatch id)) ∧
          ((later.delete id).totalSize + content.length ≤ store.byteLimit →
            ∀ again, ∃ repaired, (later.delete id).put again id content = .ok repaired ∧
              repaired.get id = .ok content)) := by
  refine ⟨get_of_put_eq_ok_iff isPut, exists_get_of_put isPut, ?_⟩
  intro rotted
  have unchanged : later = store := eq_of_put_of_rotted rotted isPut
  subst unchanged
  refine ⟨rfl, ?_, ?_⟩
  · intro history kept
    exact get_eq_contentMismatch_iff.mpr (rotted.run kept)
  · intro fits again
    exact get_of_put_of_delete (put_eq_ok_iff.mp isPut).1 fits again

/-- A store with one row, in which the last of three bytes has become another. -/
def rottenStore : ShardStore :=
  { empty 1 with
    shards := KeyedMap.empty.insert (ContentId.ofContent [1, 2, 3]).bytes [1, 2, 4] }

theorem rotten_shard_is_put_in_vain_until_deleted :
    let id := ContentId.ofContent [1, 2, 3]
    rottenStore.put 10 id [1, 2, 3] = .ok rottenStore ∧
      (rottenStore.run [.put 11 id [1, 2, 3], .reopened 2]).get id =
        .error (.contentMismatch id) ∧
      ∃ repaired, (rottenStore.delete id).put 12 id [1, 2, 3] = .ok repaired ∧
        repaired.get id = .ok [1, 2, 3] := by
  intro id
  have named : id.names [1, 2, 3] = true := decide_eq_true rfl
  have present : rottenStore.has id = true := by decide +kernel
  have rotted : rottenStore.Rotted id :=
    ⟨[1, 2, 4], KeyedMap.find?_insert_self _ _ _, by decide +kernel⟩
  have isPut : rottenStore.put 10 id [1, 2, 3] = .ok rottenStore := put_of_present named present
  obtain ⟨_, unreadable, repairable⟩ :=
    (put_shard_is_readable_unless_rotted rottenStore 10 id [1, 2, 3] rottenStore isPut).2.2 rotted
  exact ⟨isPut, unreadable _ (by simp), repairable (by decide +kernel) 12⟩

/-- Putting a shard whose row has rotted succeeds, and yet it cannot be read. -/
theorem rotten_shard_is_put_and_not_read :
    ¬ ∀ (store later : ShardStore) (now : Int) (id : ShardId) (content : Bytes),
      store.put now id content = .ok later → later.get id = .ok content := by
  intro readable
  let id := ContentId.ofContent [1, 2, 3]
  have isPut : rottenStore.put 10 id [1, 2, 3] = .ok rottenStore :=
    put_of_present (decide_eq_true rfl) (by decide +kernel)
  have isRead := readable rottenStore rottenStore 10 id [1, 2, 3] isPut
  have unreadable : rottenStore.get id = .error (.contentMismatch id) :=
    get_eq_contentMismatch_iff.mpr
      ⟨[1, 2, 4], KeyedMap.find?_insert_self _ _ _, by decide +kernel⟩
  rw [unreadable] at isRead
  cases isRead

end ShardStore

end BlockCustody
