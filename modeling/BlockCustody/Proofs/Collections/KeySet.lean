import BlockCustody.Proofs.Collections.KeyedMap

/-!
Contract: the laws of sets of keys.

Owns:
- that a set is settled by its members;
- the members and the size of a set after members were added one after another;
- that a set is the set of its members in any order.

Does not own: the laws of maps, of which sets are a case.
-/

namespace BlockCustody.KeySet

variable {key : Type} [OrderedKey key]

theorem eq_of_contains_iff {left right : KeySet key}
    (same : ∀ wanted, left.contains wanted = true ↔ right.contains wanted = true) :
    left = right := by
  apply KeyedMap.eq_of_find?_eq
  intro wanted
  have here : (left.find? wanted).isSome = (right.find? wanted).isSome :=
    Bool.eq_iff_iff.mpr (same wanted)
  cases leftFound : left.find? wanted with
  | none =>
      rw [leftFound, Option.isSome_none, eq_comm, Option.isSome_eq_false_iff] at here
      exact (Option.isNone_iff_eq_none.mp here).symm
  | some present =>
      rw [leftFound, Option.isSome_some, eq_comm] at here
      obtain ⟨other, rightFound⟩ := Option.isSome_iff_exists.mp here
      exact rightFound.symm

/-! ## Adding members -/

theorem size_add_of_new {set : KeySet key} {member : key} (new : set.contains member = false) :
    (set.add member).size = set.size + 1 :=
  KeyedMap.size_insert_of_absent new ()

variable [DecidableEq key]

theorem add_of_contains {set : KeySet key} {member : key}
    (present : set.contains member = true) : set.add member = set := by
  obtain ⟨_, found⟩ := KeyedMap.contains_eq_true_iff.mp present
  exact KeyedMap.insert_of_find? found

theorem contains_add {set : KeySet key} {added wanted : key} :
    (set.add added).contains wanted = true ↔ added = wanted ∨ set.contains wanted = true := by
  rw [add, KeyedMap.contains, KeyedMap.find?_insert]
  split
  · next same => simp [same]
  · next distinct => simp [Ne.symm distinct, KeyedMap.contains]

theorem contains_foldl_add {set : KeySet key} {members : List key} {wanted : key} :
    (members.foldl add set).contains wanted = true ↔
      wanted ∈ members ∨ set.contains wanted = true := by
  induction members generalizing set with
  | nil => simp
  | cons member others inductionHypothesis =>
      rw [List.foldl_cons, inductionHypothesis, contains_add, List.mem_cons, eq_comm]
      tauto

/-- Of distinct new members the others are still new when the first has been added. -/
theorem others_new_after_first {set : KeySet key} {first : key} {others : List key}
    (distinct : (first :: others).Nodup)
    (new : ∀ member ∈ first :: others, set.contains member = false) :
    ∀ member ∈ others, (set.add first).contains member = false := by
  intro member among
  rw [Bool.eq_false_iff, Ne, contains_add, new member (List.mem_cons_of_mem _ among)]
  rintro (rfl | present)
  · exact (List.nodup_cons.mp distinct).1 among
  · cases present

/-- Each of distinct new members makes the set larger by one. -/
theorem size_foldl_add_of_new {set : KeySet key} {members : List key}
    (distinct : members.Nodup)
    (new : ∀ member ∈ members, set.contains member = false) :
    (members.foldl add set).size = set.size + members.length := by
  induction members generalizing set with
  | nil => rfl
  | cons first others inductionHypothesis =>
      have grown := size_add_of_new (new first List.mem_cons_self)
      rw [List.foldl_cons,
        inductionHypothesis distinct.of_cons (others_new_after_first distinct new), grown,
        List.length_cons]
      omega

/-! ## Sets from their members -/

theorem contains_ofList_iff {members : List key} {wanted : key} :
    (ofList members).contains wanted = true ↔ wanted ∈ members := by
  rw [ofList, contains_foldl_add]
  simp [KeyedMap.contains]

/-- A set is the set of its members, in whatever order they are given. -/
theorem ofList_of_perm_keys {set : KeySet key} {members : List key}
    (inSomeOrder : members.Perm set.keys) :
    ofList members = set := by
  apply eq_of_contains_iff
  intro wanted
  rw [contains_ofList_iff, inSomeOrder.mem_iff, KeyedMap.mem_keys_iff]

end BlockCustody.KeySet
