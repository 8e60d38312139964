import BlockCustody.Collections.KeyedMap
import Mathlib.Data.List.Sort

/-!
Contract: the laws of ordered maps beyond looking up after an insertion.

Owns:
- looking up as membership among the entries, and looking up in a filtered map;
- that a map is rebuilt from its own entries, and is settled by what is found in it;
- what of a list of entries comes to be in its map, and where in the list it stands;
- the order and the uniqueness of keys;
- which insertions and erasures change nothing;
- how many keys there are after an operation.

Does not own: the definitions, and the laws stated beside them.
-/

namespace BlockCustody.KeyedMap

open OrderedKey

variable {key value : Type} [OrderedKey key]

/-! ## Looking up as membership -/

/-- An ascending list finds exactly its own entries. -/
theorem findEntry_eq_some_iff
    {wanted : key}
    {content : value}
    {entries : List (key × value)}
    (ascending : entries.Pairwise fun left right => Before left.1 right.1) :
    findEntry wanted entries = some content ↔ (wanted, content) ∈ entries := by
  induction entries with
  | nil => simp [findEntry]
  | cons head rest inductionHypothesis =>
      obtain ⟨present, previous⟩ := head
      have headFirst := (List.pairwise_cons.mp ascending).1
      have restAscending := (List.pairwise_cons.mp ascending).2
      have restIff := inductionHypothesis restAscending
      by_cases wantedFirst : Before wanted present
      · -- Everything in the list comes after the wanted key.
        have absent : (wanted, content) ∉ (present, previous) :: rest := by
          intro member
          rcases List.mem_cons.mp member with same | later
          · cases same
            exact Before.irrefl _ wantedFirst
          · exact Before.irrefl _ (wantedFirst.trans (headFirst _ later))
        simp [findEntry, wantedFirst, absent]
      · by_cases presentFirst : Before present wanted
        · have distinct : wanted ≠ present := by
            rintro rfl
            exact Before.irrefl _ presentFirst
          simp [findEntry, wantedFirst, presentFirst, restIff, distinct]
        · have same : wanted = present := eq_of_not_before wantedFirst presentFirst
          subst same
          have absent : (wanted, content) ∉ rest := fun later =>
            Before.irrefl wanted (headFirst (wanted, content) later)
          simp [findEntry, wantedFirst, absent, eq_comm]

theorem find?_eq_some_iff {map : KeyedMap key value} {wanted : key} {content : value} :
    map.find? wanted = some content ↔ (wanted, content) ∈ map.entries :=
  findEntry_eq_some_iff map.ascending

theorem find?_filter_eq_some_iff
    {map : KeyedMap key value}
    {keep : key → value → Bool}
    {wanted : key}
    {content : value} :
    (map.filter keep).find? wanted = some content ↔
      map.find? wanted = some content ∧ keep wanted content = true := by
  rw [find?_eq_some_iff, find?_eq_some_iff]
  simp [filter]

theorem find?_insert
    [DecidableEq key]
    (map : KeyedMap key value)
    (added wanted : key)
    (content : value) :
    (map.insert added content).find? wanted =
      if wanted = added then some content else map.find? wanted := by
  split
  · next same =>
      subst same
      exact find?_insert_self map wanted content
  · next distinct => exact find?_insert_of_ne map distinct content

/-- A map filtered by its keys loses all that is under the others. -/
theorem find?_filter_keys
    (map : KeyedMap key value)
    (keep : key → Bool)
    (wanted : key) :
    (map.filter fun present _ => keep present).find? wanted =
      if keep wanted = true then map.find? wanted else none := by
  apply Option.ext
  intro content
  rw [find?_filter_eq_some_iff]
  split
  · next kept => simp [kept]
  · next dropped => simp [dropped]

theorem find?_erase
    [DecidableEq key]
    (map : KeyedMap key value)
    (removed wanted : key) :
    (map.erase removed).find? wanted = if wanted = removed then none else map.find? wanted := by
  rw [erase, find?_filter_keys]
  by_cases same : wanted = removed
  · simp [same]
  · have otherBytes : sortBytes wanted ≠ sortBytes removed :=
      fun sameBytes => same (sortBytes_injective sameBytes)
    simp [same, otherBytes]

theorem find?_mapValues
    {other : Type}
    (map : KeyedMap key value)
    (change : value → other)
    (wanted : key) :
    (map.mapValues change).find? wanted = (map.find? wanted).map change := by
  apply Option.ext
  intro content
  rw [find?_eq_some_iff, Option.map_eq_some_iff]
  simp only [find?_eq_some_iff, mapValues, List.mem_map, Prod.mk.injEq]
  constructor
  · rintro ⟨⟨present, previous⟩, member, rfl, changed⟩
    exact ⟨previous, member, changed⟩
  · rintro ⟨previous, member, changed⟩
    exact ⟨(wanted, previous), member, rfl, changed⟩

theorem keys_mapValues {other : Type} (map : KeyedMap key value) (change : value → other) :
    (map.mapValues change).keys = map.keys := by
  rw [keys, mapValues, List.map_map]
  rfl

/-- Entries may be chosen by what their values are changed to, or changed first. -/
theorem keys_filter_mapValues {other : Type} (map : KeyedMap key value) (change : value → other)
    (keep : key → other → Bool) :
    ((map.mapValues change).filter keep).keys =
      (map.filter fun present content => keep present (change content)).keys := by
  simp only [keys, filter, mapValues, List.filter_map, List.map_map]
  rfl

theorem contains_eq_true_iff {map : KeyedMap key value} {wanted : key} :
    map.contains wanted = true ↔ ∃ content, map.find? wanted = some content :=
  Option.isSome_iff_exists

theorem contains_eq_false_iff {map : KeyedMap key value} {wanted : key} :
    map.contains wanted = false ↔ map.find? wanted = none :=
  Option.isSome_eq_false_iff.trans Option.isNone_iff_eq_none

/-! ## Maps from their entries -/

theorem insertEntry_of_last
    {added : key}
    {content : value}
    {entries : List (key × value)}
    (last : ∀ entry ∈ entries, Before entry.1 added) :
    insertEntry added content entries = entries ++ [(added, content)] := by
  induction entries with
  | nil => rfl
  | cons head rest inductionHypothesis =>
      obtain ⟨present, previous⟩ := head
      have headBefore : Before present added := last _ List.mem_cons_self
      have restBefore : ∀ entry ∈ rest, Before entry.1 added :=
        fun entry member => last entry (List.mem_cons_of_mem _ member)
      simp [insertEntry, headBefore, headBefore.asymm, inductionHypothesis restBefore]

/-- Inserting ascending entries, all later than those present, appends them. -/
theorem entries_foldl_insert
    (map : KeyedMap key value)
    (later : List (key × value))
    (ascending : (map.entries ++ later).Pairwise fun left right => Before left.1 right.1) :
    (later.foldl (fun map entry => map.insert entry.1 entry.2) map).entries =
      map.entries ++ later := by
  induction later generalizing map with
  | nil => simp
  | cons entry rest inductionHypothesis =>
      have last : ∀ present ∈ map.entries, Before present.1 entry.1 := by
        intro present member
        exact (List.pairwise_append.mp ascending).2.2 present member entry List.mem_cons_self
      have inserted : (map.insert entry.1 entry.2).entries = map.entries ++ [entry] :=
        insertEntry_of_last last
      rw [List.foldl_cons, inductionHypothesis, inserted]
      · simp
      · rw [inserted]
        simpa using ascending

/-- A map is the map of its own entries. -/
theorem ofList_entries (map : KeyedMap key value) : ofList map.entries = map := by
  apply ext
  have appended := entries_foldl_insert empty map.entries (by simpa [empty] using map.ascending)
  simpa [ofList, empty] using appended

/-- Only of ascending entries does the map consist as they are given. -/
theorem entries_ofList_eq_iff {entries : List (key × value)} :
    (ofList entries).entries = entries ↔
      entries.Pairwise fun left right => Before left.1 right.1 := by
  constructor
  · intro same
    rw [← same]
    exact (ofList entries).ascending
  · intro ascending
    have appended := entries_foldl_insert empty entries (by simpa [empty] using ascending)
    simpa [ofList, empty] using appended

/-- An insertion adds no entry but its own, and may take one out. -/
theorem subperm_insertEntry (added : key) (content : value) (entries : List (key × value)) :
    (insertEntry added content entries).Subperm ((added, content) :: entries) := by
  induction entries with
  | nil => exact List.Subperm.refl _
  | cons head rest inductionHypothesis =>
      obtain ⟨present, previous⟩ := head
      unfold insertEntry
      split
      · exact List.Subperm.refl _
      · split
        · have behindHead := (List.subperm_cons (present, previous)).mpr inductionHypothesis
          exact behindHead.trans (List.Perm.swap _ _ _).subperm
        · exact (List.Sublist.cons_cons _ (List.sublist_cons_self _ rest)).subperm

theorem subperm_entries_foldl_insert (map : KeyedMap key value) (later : List (key × value)) :
    (later.foldl (fun map entry => map.insert entry.1 entry.2) map).entries.Subperm
      (later ++ map.entries) := by
  induction later generalizing map with
  | nil => exact List.Subperm.refl _
  | cons entry rest inductionHypothesis =>
      have inserted := subperm_insertEntry entry.1 entry.2 map.entries
      have behindRest := (List.subperm_append_left rest).mpr inserted
      rw [List.foldl_cons, List.cons_append]
      apply (inductionHypothesis _).trans
      exact behindRest.trans List.perm_middle.subperm

/-- The entries of a map of a list are some of the list's, each no more often than there. -/
theorem subperm_entries_ofList (entries : List (key × value)) :
    (ofList entries).entries.Subperm entries := by
  have foldedIn := subperm_entries_foldl_insert empty entries
  rwa [empty, List.append_nil] at foldedIn

/-- Maps in which the same is found under every key are the same. -/
theorem eq_of_find?_eq
    {left right : KeyedMap key value}
    (same : ∀ wanted, left.find? wanted = right.find? wanted) :
    left = right := by
  have antisymmetric :
      Std.Antisymm fun left right : key × value => Before left.1 right.1 :=
    ⟨fun _ _ before after => absurd after before.asymm⟩
  have irreflexive : Std.Irrefl fun left right : key × value => Before left.1 right.1 :=
    ⟨fun entry => Before.irrefl entry.1⟩
  apply ext
  refine left.ascending.eq_of_mem_iff right.ascending ?_
  intro entry
  rw [← find?_eq_some_iff, ← find?_eq_some_iff, same]

/-! ## The last entry under a key -/

/-- What the last of the entries under a key has there. -/
def lastUnder [DecidableEq key] (entries : List (key × value)) (wanted : key) : Option value :=
  (entries.reverse.find? fun entry => entry.1 = wanted).map Prod.snd

omit [OrderedKey key] in
/-- An entry counts for its key unless a later one does. -/
theorem lastUnder_cons
    [DecidableEq key]
    (present : key)
    (content : value)
    (later : List (key × value))
    (wanted : key) :
    lastUnder ((present, content) :: later) wanted =
      (lastUnder later wanted).or (if present = wanted then some content else none) := by
  unfold lastUnder
  rw [List.reverse_cons, List.find?_append, Option.map_or]
  by_cases same : present = wanted
  · simp [same]
  · simp [same]

omit [OrderedKey key] in
theorem lastUnder_map
    [DecidableEq key]
    {other : Type}
    (entries : List (key × value))
    (change : value → other)
    (wanted : key) :
    lastUnder (entries.map fun entry => (entry.1, change entry.2)) wanted =
      (lastUnder entries wanted).map change := by
  unfold lastUnder
  rw [← List.map_reverse, List.find?_map, Option.map_map, Option.map_map]
  rfl

theorem find?_foldl_insert
    [DecidableEq key]
    (map : KeyedMap key value)
    (later : List (key × value))
    (wanted : key) :
    (later.foldl (fun map entry => map.insert entry.1 entry.2) map).find? wanted =
      (lastUnder later wanted).or (map.find? wanted) := by
  induction later generalizing map with
  | nil => rfl
  | cons entry rest inductionHypothesis =>
      rw [List.foldl_cons, inductionHypothesis, find?_insert, lastUnder_cons]
      cases lastUnder rest wanted with
      | some last => simp
      | none =>
          by_cases same : entry.1 = wanted
          · simp [same]
          · simp [same, Ne.symm same]

theorem find?_ofList [DecidableEq key] (entries : List (key × value)) (wanted : key) :
    (ofList entries).find? wanted = lastUnder entries wanted := by
  rw [ofList, find?_foldl_insert, find?_empty, Option.or_none]

/-! ## Keys -/

theorem pairwise_keys (map : KeyedMap key value) : map.keys.Pairwise Before :=
  List.pairwise_map.mpr map.ascending

theorem nodup_keys (map : KeyedMap key value) : map.keys.Nodup := by
  refine map.pairwise_keys.imp ?_
  rintro left _ before rfl
  exact Before.irrefl left before

theorem mem_keys_iff {map : KeyedMap key value} {wanted : key} :
    wanted ∈ map.keys ↔ map.contains wanted = true := by
  simp [keys, contains_eq_true_iff, find?_eq_some_iff]

/-! ## Size -/

theorem length_keys (map : KeyedMap key value) : map.keys.length = map.size :=
  List.length_map _

/-- A new key adds one entry, wherever its place is. -/
theorem perm_insertEntry_of_absent
    {added : key}
    {content : value}
    {entries : List (key × value)}
    (absent : findEntry added entries = none) :
    (insertEntry added content entries).Perm ((added, content) :: entries) := by
  induction entries with
  | nil => exact List.Perm.refl _
  | cons head rest inductionHypothesis =>
      obtain ⟨present, previous⟩ := head
      by_cases addedFirst : Before added present
      · rw [insertEntry, if_pos addedFirst]
      · by_cases presentFirst : Before present added
        · simp only [findEntry, addedFirst, presentFirst, if_true, if_false] at absent
          rw [insertEntry, if_neg addedFirst, if_pos presentFirst]
          exact ((inductionHypothesis absent).cons _).trans (List.Perm.swap _ _ _)
        · simp [findEntry, addedFirst, presentFirst] at absent

theorem perm_entries_insert_of_absent
    {map : KeyedMap key value}
    {added : key}
    (absent : map.contains added = false)
    (content : value) :
    (map.insert added content).entries.Perm ((added, content) :: map.entries) :=
  perm_insertEntry_of_absent (contains_eq_false_iff.mp absent)

theorem size_insert_of_absent
    {map : KeyedMap key value}
    {added : key}
    (absent : map.contains added = false)
    (content : value) :
    (map.insert added content).size = map.size + 1 :=
  (perm_entries_insert_of_absent absent content).length_eq

/-- As many keys go as there are keys not to be kept. -/
theorem size_sub_size_filter (map : KeyedMap key value) (keep : key → Bool) :
    map.size - (map.filter fun present _ => keep present).size =
      (map.keys.filter fun present => !keep present).length := by
  have parts := map.entries.length_eq_length_filter_add fun entry => keep entry.1
  rw [keys, List.filter_map, List.length_map]
  simp only [size, filter, Function.comp_def] at parts ⊢
  omega

/-- Some key is in a map unless it is empty. -/
theorem isEmpty_eq_false_iff {map : KeyedMap key value} :
    map.isEmpty = false ↔ ∃ present, map.contains present = true := by
  simp only [contains_eq_true_iff, find?_eq_some_iff]
  rw [isEmpty, List.isEmpty_eq_false_iff_exists_mem]
  exact Prod.exists

variable [DecidableEq key]

/-- What is under a key already is inserted again without a change. -/
theorem insert_of_find?
    {map : KeyedMap key value}
    {present : key}
    {content : value}
    (found : map.find? present = some content) :
    map.insert present content = map := by
  apply eq_of_find?_eq
  intro wanted
  rw [find?_insert]
  split
  · next same => rw [same, found]
  · rfl

theorem erase_of_absent
    {map : KeyedMap key value}
    {removed : key}
    (absent : map.contains removed = false) :
    map.erase removed = map := by
  apply eq_of_find?_eq
  intro wanted
  rw [find?_erase]
  split
  · next same => rw [same, contains_eq_false_iff.mp absent]
  · rfl

theorem contains_erase_self (map : KeyedMap key value) (removed : key) :
    (map.erase removed).contains removed = false := by
  rw [contains_eq_false_iff, find?_erase, if_pos rfl]

/-- Erasing a key that is there takes one entry out, as inserting it again puts one in. -/
theorem size_erase_of_present
    {map : KeyedMap key value}
    {removed : key}
    (present : map.contains removed = true) :
    (map.erase removed).size + 1 = map.size := by
  obtain ⟨content, found⟩ := contains_eq_true_iff.mp present
  have putBack : (map.erase removed).insert removed content = map := by
    apply eq_of_find?_eq
    intro wanted
    rw [find?_insert, find?_erase]
    split
    · next same => rw [same, found]
    · rfl
  rw [← size_insert_of_absent (contains_erase_self map removed) content, putBack]

end BlockCustody.KeyedMap
