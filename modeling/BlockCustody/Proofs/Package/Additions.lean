import BlockCustody.Compression.Zstandard.Writer
import BlockCustody.Proofs.Package.WrittenForm

/-!
Contract: packages built by adding shards, and what comes out at the other end.

Owns:
- the form shards are kept in: never longer than they were, and recoverable;
- packages as the outcome of additions, of which the last for an id counts;
- that sealing and opening, and writing and reading, lose none of it.

Does not own: the compressed format; whatever compressor is used must be lossless.
-/

namespace BlockCustody

/-! ## The form a shard is kept in -/

namespace Compressor

/-- The compressed form is used only if it is strictly shorter; otherwise the
bytes are kept as they were. -/
theorem store_cases (compressor : Compressor) (level : Int) (raw : Bytes) :
    (∃ compressed,
      compressor.compress level raw = some compressed ∧
        compressed.length < raw.length ∧
        compressor.store level raw = { compressed := true, data := compressed }) ∨
      compressor.store level raw = { compressed := false, data := raw } := by
  unfold store
  split
  · next compressed isCompressed =>
      split
      · next shorter => exact Or.inl ⟨compressed, isCompressed, shorter, rfl⟩
      · exact Or.inr rfl
  · exact Or.inr rfl

theorem recover_store
    {compressor : Compressor}
    (lossless : compressor.Lossless)
    (level : Int)
    (raw : Bytes) :
    compressor.recover (compressor.store level raw) = .ok raw := by
  rcases compressor.store_cases level raw with ⟨compressed, isCompressed, _, stored⟩ | stored
  · rw [stored]
    exact lossless level raw compressed isCompressed
  · rw [stored]
    rfl

theorem length_store_le (compressor : Compressor) (level : Int) (raw : Bytes) :
    (compressor.store level raw).data.length ≤ raw.length := by
  rcases compressor.store_cases level raw with ⟨compressed, _, shorter, stored⟩ | stored
  · rw [stored]
    exact Nat.le_of_lt shorter
  · have unchanged : (compressor.store level raw).data = raw := by
      rw [stored]
    exact Nat.le_of_eq (congrArg List.length unchanged)

theorem length_store_lt_of_compressed
    {compressor : Compressor}
    {level : Int}
    {raw : Bytes}
    (isCompressed : (compressor.store level raw).compressed = true) :
    (compressor.store level raw).data.length < raw.length := by
  rcases compressor.store_cases level raw with ⟨compressed, _, shorter, stored⟩ | stored
  · rw [stored]
    exact shorter
  · rw [stored] at isCompressed
    cases isCompressed

end Compressor

/-! ## Packages as the outcome of additions -/

namespace Package

/-- What additions, in their order, make of a package. -/
def addAll
    (compressor : Compressor)
    (level : Int)
    (package : Package)
    (additions : List (ShardId × Bytes)) :
    Package :=
  additions.foldl (fun package addition => package.add compressor level addition.1 addition.2)
    package

/-- The package built under a salt by additions alone. -/
def ofAdditions
    (compressor : Compressor)
    (level : Int)
    (salt : Bytes)
    (additions : List (ShardId × Bytes)) :
    Package :=
  (withSalt salt).addAll compressor level additions

/-- The bytes of the last addition for an id. -/
def lastAdded (additions : List (ShardId × Bytes)) (id : ShardId) : Option Bytes :=
  (additions.reverse.find? fun addition => addition.1 = id).map Prod.snd

section Additions

variable {compressor : Compressor} {level : Int}

theorem salt_addAll (package : Package) (additions : List (ShardId × Bytes)) :
    (package.addAll compressor level additions).salt = package.salt := by
  induction additions generalizing package with
  | nil => rfl
  | cons addition later inductionHypothesis =>
      exact inductionHypothesis (package.add compressor level addition.1 addition.2)

/-- Additions insert their ids one after another, each with the form it is kept in. -/
theorem shards_addAll (package : Package) (additions : List (ShardId × Bytes)) :
    (package.addAll compressor level additions).shards =
      (additions.map fun addition => (addition.1, compressor.store level addition.2)).foldl
        (fun shards entry => shards.insert entry.1 entry.2) package.shards := by
  rw [List.foldl_map]
  induction additions generalizing package with
  | nil => rfl
  | cons addition later inductionHypothesis =>
      exact inductionHypothesis (package.add compressor level addition.1 addition.2)

/-- Under every id stands what the last addition for it left there, and what
stood there before if there was none. -/
theorem find?_addAll (package : Package) (additions : List (ShardId × Bytes)) (id : ShardId) :
    (package.addAll compressor level additions).shards.find? id =
      ((lastAdded additions id).map (compressor.store level)).or (package.shards.find? id) := by
  rw [shards_addAll, KeyedMap.find?_foldl_insert, KeyedMap.lastUnder_map]
  rfl

theorem find?_ofAdditions (salt : Bytes) (additions : List (ShardId × Bytes)) (id : ShardId) :
    (ofAdditions compressor level salt additions).shards.find? id =
      (lastAdded additions id).map (compressor.store level) := by
  rw [ofAdditions, find?_addAll]
  simp [withSalt]

theorem get_ofAdditions_of_added
    (lossless : compressor.Lossless)
    {salt : Bytes}
    {additions : List (ShardId × Bytes)}
    {id : ShardId}
    {raw : Bytes}
    (added : lastAdded additions id = some raw) :
    (ofAdditions compressor level salt additions).get compressor id = .ok raw := by
  have found :
      (ofAdditions compressor level salt additions).shards.find? id =
        some (compressor.store level raw) := by
    rw [find?_ofAdditions, added, Option.map_some]
  simp [get, found, Compressor.recover_store lossless]

theorem get_ofAdditions_of_not_added
    {salt : Bytes}
    {additions : List (ShardId × Bytes)}
    {id : ShardId}
    (notAdded : lastAdded additions id = none) :
    (ofAdditions compressor level salt additions).get compressor id = .error (.notFound id) := by
  have missing : (ofAdditions compressor level salt additions).shards.find? id = none := by
    rw [find?_ofAdditions, notAdded, Option.map_none]
  simp [get, missing]

/-- No shard of a built package is kept in a form longer than its bytes. -/
theorem length_stored_ofAdditions
    {salt : Bytes}
    {additions : List (ShardId × Bytes)}
    {id : ShardId}
    {stored : StoredBytes}
    (found : (ofAdditions compressor level salt additions).shards.find? id = some stored) :
    ∃ raw, lastAdded additions id = some raw ∧
      stored.data.length ≤ raw.length ∧
      (stored.compressed = true → stored.data.length < raw.length) := by
  rw [find?_ofAdditions] at found
  obtain ⟨raw, added, rfl⟩ := Option.map_eq_some_iff.mp found
  exact ⟨raw, added, compressor.length_store_le level raw,
    Compressor.length_store_lt_of_compressed⟩

end Additions

/-! ## The way to a peer and back -/

/-- Shards added in any order, any number of times under the same id, come back
from the sealed and from the written form of their package: under every id the
bytes last added, and under other ids nothing. Both forms are read back as the
very package that was built, so that all else agrees too. No shard is kept in a
form longer than its bytes, and only a strictly shorter form is compressed. -/
theorem sealed_package_holds_last_added
    {compressor : Compressor}
    (lossless : compressor.Lossless)
    {level : Int}
    {salt : Bytes}
    {additions : List (ShardId × Bytes)}
    {key : Sealing.BlockKey}
    {sealed : Bytes}
    (isSealed : (ofAdditions compressor level salt additions).sealWith key = .ok sealed) :
    ∃ package bytes,
      package = ofAdditions compressor level salt additions ∧
        openWith key sealed = .ok package ∧
        package.toBytes = .ok bytes ∧
        ofBytes bytes = .ok package ∧
        package.blockId = .ok (ContentId.ofContent bytes) ∧
        package.salt = salt ∧
        package.shardIds.Pairwise OrderedKey.Before ∧
        (∀ id, package.contains id = (lastAdded additions id).isSome) ∧
        (∀ id raw, lastAdded additions id = some raw → package.get compressor id = .ok raw) ∧
        (∀ id, lastAdded additions id = none →
          package.get compressor id = .error (.notFound id)) ∧
        ∀ id stored, package.shards.find? id = some stored →
          ∃ raw, lastAdded additions id = some raw ∧
            stored.data.length ≤ raw.length ∧
            (stored.compressed = true → stored.data.length < raw.length) := by
  obtain ⟨bytes, isWritten, _⟩ := sealWith_eq_ok_iff.mp isSealed
  refine ⟨_, bytes, rfl, openWith_of_sealWith isSealed, isWritten, ofBytes_of_toBytes isWritten,
    ?_, salt_addAll _ additions, KeyedMap.pairwise_keys _, ?_, ?_, ?_, ?_⟩
  · simp [blockId, isWritten]
  · intro id
    rw [contains, KeyedMap.contains, find?_ofAdditions, Option.isSome_map]
  · intro id raw added
    exact get_ofAdditions_of_added lossless added
  · intro id notAdded
    exact get_ofAdditions_of_not_added notAdded
  · intro id stored found
    exact length_stored_ofAdditions found

/-- Two shards, one first compressed and then raw, the other the other way round. -/
def twoOverwrittenShards (first second : ShardId) : List (ShardId × Bytes) :=
  [(first, List.replicate 40 97), (second, [9]), (first, [1, 2, 3]),
    (second, List.replicate 40 97)]

theorem two_overwritten_shards_survive_sealing :
    ∃ first second third : ShardId, ∃ key : Sealing.BlockKey, ∃ sealed package,
      (ofAdditions Compression.Zstandard.compressor 3 [7]
          (twoOverwrittenShards first second)).sealWith key = .ok sealed ∧
        openWith key sealed = .ok package ∧
        package.get Compression.Zstandard.compressor first = .ok [1, 2, 3] ∧
        package.get Compression.Zstandard.compressor second = .ok (List.replicate 40 97) ∧
        package.get Compression.Zstandard.compressor third = .error (.notFound third) := by
  let first : ShardId := { bytes := List.replicate 32 1, length_bytes := rfl }
  let second : ShardId := { bytes := List.replicate 32 2, length_bytes := rfl }
  let third : ShardId := { bytes := List.replicate 32 3, length_bytes := rfl }
  let key : Sealing.BlockKey := { bytes := List.replicate 32 5, length_bytes := rfl }
  have fits :
      (ofAdditions Compression.Zstandard.compressor 3 [7]
        (twoOverwrittenShards first second)).written.length ≤ Snapshot.writeLimit := by
    decide +kernel
  obtain ⟨sealed, isSealed⟩ := exists_sealWith_eq_ok key fits
  obtain ⟨package, _, _, isOpened, _, _, _, _, _, _, holdsAdded, lacksOthers, _⟩ :=
    sealed_package_holds_last_added (Compressor.checked_lossless _) isSealed
  exact ⟨first, second, third, key, sealed, package, isSealed, isOpened,
    holdsAdded first [1, 2, 3] (by decide), holdsAdded second (List.replicate 40 97) (by decide),
    lacksOthers third (by decide)⟩

end Package

end BlockCustody
