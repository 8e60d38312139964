import BlockCustody.Proofs.Shards.History

/-!
Contract: a shard store as those who use it find it, after any history.

Owns:
- that the ways to ask for a shard agree with one another and with the history;
- the ids and the total size that are told;
- what comes of putting one more shard, and of deleting one that is not there.

Does not own: the tables behind the answers.
-/

namespace BlockCustody

namespace ShardStore

variable {store : ShardStore} {id : ShardId} {content : Bytes} {now : Int}

/-! ## Answers from tables in step -/

theorem get_of_absent (absent : store.has id = false) : store.get id = .error (.notFound id) := by
  have notFound : store.shards.find? id.bytes = none := has_eq_false_iff.mp absent
  rw [get, notFound]

theorem InStep.has_iff_get (inStep : store.InStep) :
    store.has id = true ↔ ∃ content, store.get id = .ok content := by
  simp only [has_eq_true_iff, inStep.get_eq_ok_iff]

theorem InStep.readableLength_eq (inStep : store.InStep)
    (found : store.content? id = some content) : store.readableLength id = content.length := by
  rw [readableLength, inStep.get_eq_ok_iff.mpr found]

theorem InStep.totalSize_eq_sum (inStep : store.InStep) :
    store.totalSize = (store.list.map store.readableLength).sum := by
  have sameLengths : store.list.map store.readableLength =
      store.shards.entries.map fun entry => entry.2.length :=
    map_list inStep.named fun _ _ found => inStep.readableLength_eq found
  rw [totalSize_eq, sameLengths]

/-- Nothing but a shard has a time. -/
theorem InStep.has_of_storedAt? {time : Int} (inStep : store.InStep)
    (dated : store.storedAt? id = some time) : store.has id = true := by
  obtain ⟨row, found, _⟩ := Option.bind_eq_some_iff.mp dated
  obtain ⟨present, sameKey, isPresent⟩ := inStep.dated _ row found
  rwa [← timeKey_injective sameKey]

theorem InStep.delete_of_absent (inStep : store.InStep) (absent : store.has id = false) :
    store.delete id = store := by
  -- Both tables are erased from, and a time without a shard would be lost.
  have undated : store.metadata.contains (timeKey id) = false := by
    rw [KeyedMap.contains_eq_false_iff, Option.eq_none_iff_forall_ne_some]
    intro row found
    obtain ⟨present, sameKey, isPresent⟩ := inStep.dated _ row found
    rw [timeKey_injective sameKey, absent] at isPresent
    cases isPresent
  rw [ShardStore.delete, KeyedMap.erase_of_absent absent, KeyedMap.erase_of_absent undated]

theorem after_put_of_error {fault : StoreFault}
    (refused : store.put now id content = .error fault) :
    store.after (.put now id content) = store := by
  rw [after, refused]

/-- A shard that is entered can be read, and is within the limit. -/
theorem put_of_fits
    (inStep : store.InStep)
    (named : id.names content = true)
    (absent : store.has id = false)
    (fits : store.totalSize + content.length ≤ store.byteLimit)
    (now : Int) :
    ∃ later, store.put now id content = .ok later ∧ later.get id = .ok content ∧
      later.totalSize = store.totalSize + content.length ∧ later.totalSize ≤ store.byteLimit := by
  have isEntered : store.put now id content = .ok (store.enter now id content) := by
    rw [put_of_new named absent, if_neg (Nat.not_lt.mpr fits)]
  have grown := totalSize_enter absent now content
  refine ⟨store.enter now id content, isEntered, ?_, grown, ?_⟩
  · rw [(inStep.enter named now).get_eq_ok_iff, content?_enter, if_pos rfl]
  · rw [grown]
    exact fits

/-- A shard that is put and new is refused for want of space, and only if it does not fit. -/
theorem put_eq_full_iff (named : id.names content = true) (absent : store.has id = false) :
    store.put now id content = .error .full ↔
      store.byteLimit < store.totalSize + content.length := by
  rw [put_of_new named absent]
  split
  · simp [*]
  · simp [*]

/-! ## Answers after a history -/

section FromEmpty

variable {maxGigabytes : Nat} {history : List StoreEvent}

theorem get_run_eq_ok_iff :
    ((empty maxGigabytes).run history).get id = .ok content ↔
      ∃ now, StoredAt maxGigabytes history now id content := by
  rw [(run_inStep maxGigabytes history).get_eq_ok_iff, content?_run_eq_some_iff]

/-- A stored shard has a time, which is when it was entered. -/
theorem storedAt?_run (stored : StoredAt maxGigabytes history now id content) :
    ∃ time, ((empty maxGigabytes).run history).storedAt? id = some time ∧
      (-0x8000000000000000 ≤ now → now < 0x8000000000000000 → time = now) := by
  rw [storedAt?, find?_timeKey_run stored, Option.bind_some]
  exact readTime?_writeTime now

theorem has_run_iff_storedAt? :
    ((empty maxGigabytes).run history).has id = true ↔
      ∃ time, ((empty maxGigabytes).run history).storedAt? id = some time := by
  constructor
  · intro present
    obtain ⟨content, found⟩ := has_eq_true_iff.mp present
    obtain ⟨now, stored⟩ := content?_run_eq_some_iff.mp found
    obtain ⟨time, dated, _⟩ := storedAt?_run stored
    exact ⟨time, dated⟩
  · rintro ⟨time, dated⟩
    exact (run_inStep maxGigabytes history).has_of_storedAt? dated

end FromEmpty

/-- A store that started empty, after any history, opened again under other limits or not.
Every row of shards is under the name of its content. Asking whether a shard is there,
listing it, asking for its time and getting it agree; what is got is what was entered last
and not deleted since, and its time is when it was entered. The ids are listed in order,
each once, and the total size is that of what they read. Putting judges the content first
and the space last, which is refused exactly if the limit does not allow for it; what is
entered can be read and is within the limit. What is refused, and deleting what is not
there, changes nothing. -/
theorem store_holds_what_was_put_and_not_deleted
    (maxGigabytes : Nat)
    (history : List StoreEvent) :
    let store := (empty maxGigabytes).run history
    let limit := gigabytesAfter maxGigabytes history * bytesPerGigabyte
    (∀ key content, store.shards.find? key = some content →
      ∃ id : ShardId, id.bytes = key ∧ id.names content = true) ∧
      (∀ id,
        (store.has id = true ↔ id ∈ store.list) ∧
        (store.has id = true ↔ ∃ time, store.storedAt? id = some time) ∧
        (store.has id = true ↔ ∃ content, store.get id = .ok content)) ∧
      (∀ id content, store.get id = .ok content ↔
        ∃ now, StoredAt maxGigabytes history now id content) ∧
      (∀ now id content, StoredAt maxGigabytes history now id content →
        -0x8000000000000000 ≤ now → now < 0x8000000000000000 → store.storedAt? id = some now) ∧
      (store.list.Nodup ∧ store.list.Pairwise OrderedKey.Before ∧
        store.list.length = store.shardCount ∧
        store.totalSize = (store.list.map store.readableLength).sum) ∧
      (∀ now id content,
        let outcome := store.put now id content
        (id.names content = false → outcome = .error (.contentMismatch id)) ∧
        (id.names content = true → store.has id = true → outcome = .ok store) ∧
        (id.names content = true → store.has id = false →
          (outcome = .error .full ↔ limit < store.totalSize + content.length) ∧
          (store.totalSize + content.length ≤ limit →
            ∃ later, outcome = .ok later ∧ later.get id = .ok content ∧
              later.totalSize = store.totalSize + content.length ∧
              later.totalSize ≤ limit)) ∧
        ∀ fault, outcome = .error fault → store.after (.put now id content) = store) ∧
      ∀ id, store.has id = false →
        store.get id = .error (.notFound id) ∧ store.delete id = store := by
  intro store limit
  have inStep : store.InStep := run_inStep maxGigabytes history
  have isLimit : store.byteLimit = limit := byteLimit_run maxGigabytes history
  refine ⟨inStep.named, ?_, fun _ _ => get_run_eq_ok_iff, ?_, ?_, ?_, ?_⟩
  · intro id
    exact ⟨(mem_list_iff inStep.named).symm, has_run_iff_storedAt?, inStep.has_iff_get⟩
  · intro now id content stored notBefore notAfter
    obtain ⟨time, dated, isTime⟩ := storedAt?_run stored
    rw [← isTime notBefore notAfter]
    exact dated
  · exact ⟨nodup_list inStep.named, pairwise_list inStep.named, length_list inStep.named,
      inStep.totalSize_eq_sum⟩
  · intro now id content outcome
    refine ⟨put_of_not_named, put_of_present, ?_, fun _ => after_put_of_error⟩
    intro named absent
    rw [← isLimit]
    exact ⟨put_eq_full_iff named absent, fun fits => put_of_fits inStep named absent fits now⟩
  · intro id absent
    exact ⟨get_of_absent absent, inStep.delete_of_absent absent⟩

/-- A shard is put, put with other bytes, deleted, and put again; then the store is opened
with no space at all. -/
def putAgainThenShrunk (content others : Bytes) : List StoreEvent :=
  let id := ContentId.ofContent content
  [.put 10 id content, .put 11 id others, .deleted id, .put 12 id content, .reopened 0]

theorem shard_put_again_outlasts_its_space :
    ∃ content others : Bytes,
      let id := ContentId.ofContent content
      let other := ContentId.ofContent others
      let store := (empty 1).run (putAgainThenShrunk content others)
      store.get id = .ok content ∧
        store.storedAt? id = some 12 ∧
        id ∈ store.list ∧
        store.put 13 id content = .ok store ∧
        store.put 13 id others = .error (.contentMismatch id) ∧
        store.put 13 other others = .error .full ∧
        store.get other = .error (.notFound other) ∧
        store.delete other = store := by
  let content : Bytes := [1, 2, 3]
  let others : Bytes := [4]
  let id := ContentId.ofContent content
  let other := ContentId.ofContent others
  let history := putAgainThenShrunk content others
  let store := (empty 1).run history
  obtain ⟨_, askings, gotten, dated, _, outcomes, absences⟩ :=
    store_holds_what_was_put_and_not_deleted 1 history
  have named : id.names content = true := decide_eq_true rfl
  have otherNamed : other.names others = true := decide_eq_true rfl
  have stored : StoredAt 1 history 12 id content := by
    refine ⟨[.put 10 id content, .put 11 id others, .deleted id], .put 12 id content,
      [.reopened 0], rfl, ⟨rfl, named, ?_, ?_⟩, by simp⟩
    · decide +kernel
    · decide +kernel
  have isGotten := (gotten id content).mpr ⟨12, stored⟩
  have present : store.has id = true := (askings id).2.2.mpr ⟨content, isGotten⟩
  have absent : store.has other = false := by decide +kernel
  refine ⟨content, others, isGotten, dated 12 id content stored (by decide) (by decide),
    (askings id).1.mp present, (outcomes 13 id content).2.1 named present,
    (outcomes 13 id others).1 (by decide +kernel), ?_, absences other absent⟩
  refine ((outcomes 13 other others).2.2.1 otherNamed absent).1.mpr ?_
  change 0 * bytesPerGigabyte < store.totalSize + 1
  omega

end ShardStore

end BlockCustody
