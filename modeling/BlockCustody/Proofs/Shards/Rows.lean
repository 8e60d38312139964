import BlockCustody.Proofs.Collections.KeyedMap
import BlockCustody.Proofs.Content.Id
import BlockCustody.Shards.Store
import Mathlib.Algebra.Ring.Nat

/-!
Contract: the rows behind the ids of a shard store.

Owns:
- that ids have rows of their own in both tables;
- times as they are read back from a row;
- what is found in the tables after a shard is entered or deleted, and how many bytes
  they then hold;
- ids and sizes as the rows tell them, where every key is an id.

Does not own: when a shard is entered.
-/

namespace BlockCustody

namespace ShardStore

variable {store : ShardStore} {id : ShardId} {content : Bytes}

/-! ## Times -/

theorem timeKey_injective {left right : ShardId} (same : timeKey left = timeKey right) :
    left = right := by
  -- The rows begin alike, and the digits behind tell ids apart.
  have sameText : ("stored_at:" ++ left.toHex).toUTF8 = ("stored_at:" ++ right.toHex).toUTF8 :=
    ByteArray.ext (Array.toList_inj.mp same)
  rw [String.toUTF8_eq_toByteArray, String.toUTF8_eq_toByteArray, String.toByteArray_inj,
    String.append_right_inj] at sameText
  exact ContentId.eq_of_bytes_eq (Text.Hex.encode_injective sameText)

/-- A row that a time was written to has a time, and that one if it fits eight bytes. -/
theorem readTime?_writeTime (seconds : Int) :
    ∃ time, readTime? (writeTime seconds) = some time ∧
      (-0x8000000000000000 ≤ seconds → seconds < 0x8000000000000000 → time = seconds) := by
  have fits : (seconds % 0x10000000000000000).toNat < LittleEndian.capacity 8 := by
    have capacity : LittleEndian.capacity 8 = 0x10000000000000000 := rfl
    omega
  rw [readTime?, writeTime, if_pos (LittleEndian.length_encode _ _),
    LittleEndian.decode_encode_of_lt fits]
  refine ⟨_, rfl, ?_⟩
  intro notBefore notAfter
  split <;> omega

/-! ## Entering and deleting -/

/-- The store with another shard and its time of writing. -/
def enter (store : ShardStore) (now : Int) (id : ShardId) (content : Bytes) : ShardStore :=
  { store with
    shards := store.shards.insert id.bytes content
    metadata := store.metadata.insert (timeKey id) (writeTime now) }

/-- The bytes under an id, whether or not it names them. -/
def content? (store : ShardStore) (id : ShardId) : Option Bytes :=
  store.shards.find? id.bytes

theorem has_eq_true_iff : store.has id = true ↔ ∃ content, store.content? id = some content :=
  KeyedMap.contains_eq_true_iff

theorem has_eq_false_iff : store.has id = false ↔ store.content? id = none :=
  KeyedMap.contains_eq_false_iff

theorem content?_enter (store : ShardStore) (now : Int) (entered id : ShardId)
    (content : Bytes) :
    (store.enter now entered content).content? id =
      if id = entered then some content else store.content? id := by
  rw [content?, enter, KeyedMap.find?_insert]
  by_cases same : id = entered
  · rw [if_pos same, if_pos (congrArg ContentId.bytes same)]
  · rw [if_neg same, if_neg fun sameBytes => same (ContentId.eq_of_bytes_eq sameBytes)]
    rfl

theorem content?_delete (store : ShardStore) (deleted id : ShardId) :
    (store.delete deleted).content? id = if id = deleted then none else store.content? id := by
  rw [content?, delete, KeyedMap.find?_erase]
  by_cases same : id = deleted
  · rw [if_pos same, if_pos (congrArg ContentId.bytes same)]
  · rw [if_neg same, if_neg fun sameBytes => same (ContentId.eq_of_bytes_eq sameBytes)]
    rfl

theorem totalSize_eq (store : ShardStore) :
    store.totalSize = (store.shards.entries.map fun entry => entry.2.length).sum := by
  rw [totalSize, KeyedMap.values]
  induction store.shards.entries with
  | nil => rfl
  | cons entry rest inductionHypothesis =>
      rw [List.map_cons, List.foldr_cons, inductionHypothesis, List.map_cons, List.sum_cons]

theorem totalSize_enter (absent : store.has id = false) (now : Int) (content : Bytes) :
    (store.enter now id content).totalSize = store.totalSize + content.length := by
  have oneMore := KeyedMap.perm_entries_insert_of_absent absent content
  rw [totalSize_eq, enter, (oneMore.map fun entry => entry.2.length).sum_nat, List.map_cons,
    List.sum_cons, totalSize_eq, Nat.add_comm]

/-! ## Ids and sizes -/

/-- Every row of shards is under the id that its content has. -/
def Named (store : ShardStore) : Prop :=
  ∀ key content, store.shards.find? key = some content →
    ∃ id : ShardId, id.bytes = key ∧ id.names content = true

/-- What is listed is in step with the rows, whatever is told of either. -/
theorem map_list
    {told : Type}
    (named : store.Named)
    {ofId : ShardId → told}
    {ofRow : Bytes × Bytes → told}
    (agree : ∀ id content, store.content? id = some content →
      ofId id = ofRow (id.bytes, content)) :
    store.list.map ofId = store.shards.entries.map ofRow := by
  rw [list, KeyedMap.keys, List.filterMap_map, List.map_filterMap, ← List.filterMap_eq_map]
  apply List.filterMap_congr
  rintro ⟨key, content⟩ member
  have found := KeyedMap.find?_eq_some_iff.mpr member
  obtain ⟨id, rfl, _⟩ := named key content found
  simp only [Function.comp_apply, ContentId.ofBytes?_bytes, Option.map_some]
  rw [agree id content found]

theorem map_bytes_list (named : store.Named) :
    store.list.map ContentId.bytes = store.shards.keys :=
  map_list named fun _ _ _ => rfl

theorem mem_list_iff (named : store.Named) : id ∈ store.list ↔ store.has id = true := by
  rw [has, ← KeyedMap.mem_keys_iff, ← map_bytes_list named]
  constructor
  · exact List.mem_map_of_mem
  · intro member
    obtain ⟨listed, isListed, sameBytes⟩ := List.mem_map.mp member
    rwa [← ContentId.eq_of_bytes_eq sameBytes]

theorem length_list (named : store.Named) : store.list.length = store.shardCount := by
  rw [shardCount, ← KeyedMap.length_keys, ← map_bytes_list named, List.length_map]

theorem pairwise_list (named : store.Named) : store.list.Pairwise OrderedKey.Before := by
  have ascending := store.shards.pairwise_keys
  rw [← map_bytes_list named, List.pairwise_map] at ascending
  exact ascending

theorem nodup_list (named : store.Named) : store.list.Nodup := by
  have distinct := store.shards.nodup_keys
  rw [← map_bytes_list named] at distinct
  exact distinct.of_map _

end ShardStore

end BlockCustody
