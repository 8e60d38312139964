import BlockCustody.Content.Id
import BlockCustody.Peer.Id

/-!
Contract: finite maps and sets kept in the order of their keys' bytes.

Owns:
- the order of keys by the byte strings that stand for them;
- maps as strictly ascending lists of entries, so that equal maps are equal
  values and are written to equal bytes;
- sets as maps to nothing, and the basic laws of looking up.

Does not own: any particular kind of entry.
-/

namespace BlockCustody

/-- Keys that are told apart and ordered by a byte string each. -/
class OrderedKey (key : Type) where
  sortBytes : key → Bytes
  sortBytes_injective : ∀ {left right : key}, sortBytes left = sortBytes right → left = right

instance : OrderedKey Bytes where
  sortBytes bytes := bytes
  sortBytes_injective same := same

instance : OrderedKey ContentId where
  sortBytes id := id.bytes
  sortBytes_injective {left right} same := by
    cases left
    cases right
    simp_all

instance : OrderedKey PeerId where
  sortBytes peer := peer.bytes
  sortBytes_injective {left right} same := by
    cases left
    cases right
    simp_all

namespace OrderedKey

variable {key : Type} [OrderedKey key]

/-- The order of keys: lexicographic in their bytes. -/
def Before (left right : key) : Prop :=
  sortBytes left < sortBytes right

instance (left right : key) : Decidable (Before left right) :=
  inferInstanceAs (Decidable (sortBytes left < sortBytes right))

theorem Before.irrefl (single : key) : ¬ Before single single :=
  List.lt_irrefl _

theorem Before.trans
    {first second third : key}
    (left : Before first second)
    (right : Before second third) :
    Before first third :=
  List.lt_trans left right

theorem Before.asymm
    {left right : key}
    (before : Before left right) :
    ¬ Before right left :=
  fun after => Before.irrefl left (before.trans after)

theorem eq_of_not_before
    {left right : key}
    (notBefore : ¬ Before left right)
    (notAfter : ¬ Before right left) :
    left = right :=
  sortBytes_injective (List.le_antisymm (List.not_lt.mp notAfter) (List.not_lt.mp notBefore))

end OrderedKey

/-- A finite map: entries in strictly ascending order of their keys. -/
structure KeyedMap (key value : Type) [OrderedKey key] where
  entries : List (key × value)
  ascending : entries.Pairwise fun left right => OrderedKey.Before left.1 right.1

namespace KeyedMap

open OrderedKey

variable {key value : Type} [OrderedKey key]

instance [DecidableEq key] [DecidableEq value] : DecidableEq (KeyedMap key value) :=
  fun left right =>
    if same : left.entries = right.entries then
      .isTrue (by cases left; cases right; simp_all)
    else .isFalse (fun equal => same (by rw [equal]))

@[ext]
theorem ext
    {left right : KeyedMap key value}
    (same : left.entries = right.entries) :
    left = right := by
  cases left
  cases right
  simp_all

def empty : KeyedMap key value :=
  { entries := []
    ascending := .nil }

/-! ## Entry lists -/

/-- Looks a key up, giving up at the first later key. -/
def findEntry (wanted : key) : List (key × value) → Option value
  | [] => none
  | (present, content) :: rest =>
      if Before wanted present then none
      else if Before present wanted then findEntry wanted rest
      else some content

/-- Puts an entry in its place, replacing one with the same key. -/
def insertEntry (added : key) (content : value) : List (key × value) → List (key × value)
  | [] => [(added, content)]
  | (present, previous) :: rest =>
      if Before added present then (added, content) :: (present, previous) :: rest
      else if Before present added then (present, previous) :: insertEntry added content rest
      else (added, content) :: rest

/-- Every key after an insertion is the added one or was there before. -/
theorem key_mem_insertEntry
    {added : key}
    {content : value}
    {entries : List (key × value)}
    {entry : key × value}
    (member : entry ∈ insertEntry added content entries) :
    entry.1 = added ∨ entry ∈ entries := by
  induction entries with
  | nil => simp_all [insertEntry]
  | cons head rest inductionHypothesis =>
      obtain ⟨present, previous⟩ := head
      unfold insertEntry at member
      split at member
      · rcases List.mem_cons.mp member with rfl | old
        · exact Or.inl rfl
        · exact Or.inr old
      · split at member
        · rcases List.mem_cons.mp member with rfl | deeper
          · exact Or.inr List.mem_cons_self
          · rcases inductionHypothesis deeper with same | old
            · exact Or.inl same
            · exact Or.inr (List.mem_cons_of_mem _ old)
        · rcases List.mem_cons.mp member with rfl | old
          · exact Or.inl rfl
          · exact Or.inr (List.mem_cons_of_mem _ old)

theorem ascending_insertEntry
    (added : key)
    (content : value)
    {entries : List (key × value)}
    (ascending : entries.Pairwise fun left right => Before left.1 right.1) :
    (insertEntry added content entries).Pairwise fun left right => Before left.1 right.1 := by
  induction entries with
  | nil => simp [insertEntry]
  | cons head rest inductionHypothesis =>
      obtain ⟨present, previous⟩ := head
      have headFirst := (List.pairwise_cons.mp ascending).1
      have restAscending := (List.pairwise_cons.mp ascending).2
      unfold insertEntry
      split
      · rename_i isFirst
        refine List.pairwise_cons.mpr ⟨fun entry member => ?_, ascending⟩
        rcases List.mem_cons.mp member with rfl | later
        · exact isFirst
        · exact isFirst.trans (headFirst entry later)
      · split
        · rename_i _ isLater
          refine List.pairwise_cons.mpr ⟨fun entry member => ?_, inductionHypothesis restAscending⟩
          rcases key_mem_insertEntry member with same | later
          · simpa [same] using isLater
          · exact headFirst entry later
        · rename_i notFirst notLater
          have same : added = present := eq_of_not_before notFirst notLater
          subst same
          exact List.pairwise_cons.mpr ⟨headFirst, restAscending⟩

/-! ## Operations -/

def find? (map : KeyedMap key value) (wanted : key) : Option value :=
  findEntry wanted map.entries

def contains (map : KeyedMap key value) (wanted : key) : Bool :=
  (map.find? wanted).isSome

def insert (map : KeyedMap key value) (added : key) (content : value) : KeyedMap key value :=
  { entries := insertEntry added content map.entries
    ascending := ascending_insertEntry added content map.ascending }

def filter (map : KeyedMap key value) (keep : key → value → Bool) : KeyedMap key value :=
  { entries := map.entries.filter fun entry => keep entry.1 entry.2
    ascending := map.ascending.sublist List.filter_sublist }

def erase (map : KeyedMap key value) (removed : key) : KeyedMap key value :=
  map.filter fun present _ => decide (sortBytes present ≠ sortBytes removed)

def mapValues {other : Type} (map : KeyedMap key value) (change : value → other) :
    KeyedMap key other :=
  { entries := map.entries.map fun entry => (entry.1, change entry.2)
    ascending := List.pairwise_map.mpr map.ascending }

def keys (map : KeyedMap key value) : List key :=
  map.entries.map Prod.fst

def values (map : KeyedMap key value) : List value :=
  map.entries.map Prod.snd

def size (map : KeyedMap key value) : Nat :=
  map.entries.length

def isEmpty (map : KeyedMap key value) : Bool :=
  map.entries.isEmpty

/-- The map of a list of entries in any order; of two with the same key the
later one counts. -/
def ofList (entries : List (key × value)) : KeyedMap key value :=
  entries.foldl (fun map entry => map.insert entry.1 entry.2) empty

/-! ## Looking up after an operation -/

theorem findEntry_insertEntry_self
    (added : key)
    (content : value)
    (entries : List (key × value)) :
    findEntry added (insertEntry added content entries) = some content := by
  induction entries with
  | nil => simp [insertEntry, findEntry, Before.irrefl]
  | cons head rest inductionHypothesis =>
      obtain ⟨present, previous⟩ := head
      unfold insertEntry
      split
      · simp [findEntry, Before.irrefl]
      · split
        · rename_i notFirst isLater
          simp [findEntry, notFirst, isLater, inductionHypothesis]
        · simp [findEntry, Before.irrefl]

theorem findEntry_insertEntry_of_ne
    {added wanted : key}
    (distinct : wanted ≠ added)
    (content : value)
    {entries : List (key × value)}
    (ascending : entries.Pairwise fun left right => Before left.1 right.1) :
    findEntry wanted (insertEntry added content entries) = findEntry wanted entries := by
  induction entries with
  | nil =>
      unfold insertEntry findEntry
      split
      · rfl
      · split
        · rfl
        · rename_i notFirst notLater
          exact absurd (eq_of_not_before notFirst notLater) distinct
  | cons head rest inductionHypothesis =>
      obtain ⟨present, previous⟩ := head
      have restAscending := (List.pairwise_cons.mp ascending).2
      unfold insertEntry
      split
      · rename_i isFirst
        by_cases wantedFirst : Before wanted added
        · have wantedBeforePresent := wantedFirst.trans isFirst
          simp [findEntry, wantedFirst, wantedBeforePresent]
        · by_cases addedFirst : Before added wanted
          · simp [findEntry, wantedFirst, addedFirst]
          · exact absurd (eq_of_not_before wantedFirst addedFirst) distinct
      · split
        · simp only [findEntry, inductionHypothesis restAscending]
        · rename_i notFirst notLater
          have same : added = present := eq_of_not_before notFirst notLater
          subst same
          by_cases wantedFirst : Before wanted added
          · simp [findEntry, wantedFirst]
          · by_cases addedFirst : Before added wanted
            · simp [findEntry, wantedFirst, addedFirst]
            · exact absurd (eq_of_not_before wantedFirst addedFirst) distinct

@[simp]
theorem find?_empty (wanted : key) : (empty : KeyedMap key value).find? wanted = none :=
  rfl

@[simp]
theorem find?_insert_self (map : KeyedMap key value) (added : key) (content : value) :
    (map.insert added content).find? added = some content :=
  findEntry_insertEntry_self added content map.entries

theorem find?_insert_of_ne
    (map : KeyedMap key value)
    {added wanted : key}
    (distinct : wanted ≠ added)
    (content : value) :
    (map.insert added content).find? wanted = map.find? wanted :=
  findEntry_insertEntry_of_ne distinct content map.ascending

end KeyedMap

abbrev KeySet (key : Type) [OrderedKey key] := KeyedMap key Unit

namespace KeySet

variable {key : Type} [OrderedKey key]

def add (set : KeySet key) (added : key) : KeySet key :=
  KeyedMap.insert set added ()

/-- The set of a list of keys in any order, with or without repetitions. -/
def ofList (members : List key) : KeySet key :=
  members.foldl add KeyedMap.empty

end KeySet

end BlockCustody
