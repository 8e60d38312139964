import BlockCustody.Proofs.Ledger.Contents
import BlockCustody.Proofs.Package.Additions

/-!
Contract: packages with the same contents as one and the same block.

Owns:
- that a package is settled by its salt and by what is kept under each id;
- that only the last addition for each id tells packages of one salt apart;
- that no two packages have the same written or the same sealed form;
- that a block sealed again is the block the ledger already has.

Does not own: what comes out of a block at the other end.
-/

namespace BlockCustody.Package

variable {left right : Package} {key : Sealing.BlockKey}

/-! ## Equal packages -/

theorem eq_iff :
    left = right ↔
      left.salt = right.salt ∧ ∀ id, left.shards.find? id = right.shards.find? id := by
  constructor
  · rintro rfl
    exact ⟨rfl, fun _ => rfl⟩
  · rintro ⟨sameSalt, sameShards⟩
    have sameMap : left.shards = right.shards := KeyedMap.eq_of_find?_eq sameShards
    cases left
    cases right
    simp_all

/-- Neither the order of additions counts nor what a later one for the same id replaced. -/
theorem ofAdditions_eq_of_lastAdded_eq
    (compressor : Compressor)
    (level : Int)
    (salt : Bytes)
    {first second : List (ShardId × Bytes)}
    (sameLast : ∀ id, lastAdded first id = lastAdded second id) :
    ofAdditions compressor level salt first = ofAdditions compressor level salt second := by
  refine eq_iff.mpr ⟨?_, ?_⟩
  · rw [ofAdditions, ofAdditions, salt_addAll, salt_addAll]
  · intro id
    rw [find?_ofAdditions, find?_ofAdditions, sameLast]

/-! ## Equal forms -/

theorem eq_of_toBytes_eq
    {bytes : Bytes}
    (leftWritten : left.toBytes = .ok bytes)
    (rightWritten : right.toBytes = .ok bytes) :
    left = right := by
  have readBack := ofBytes_of_toBytes leftWritten
  rw [ofBytes_of_toBytes rightWritten] at readBack
  exact (Except.ok.inj readBack).symm

theorem eq_of_sealWith_eq
    {sealed : Bytes}
    (leftSealed : left.sealWith key = .ok sealed)
    (rightSealed : right.sealWith key = .ok sealed) :
    left = right := by
  have opened := openWith_of_sealWith leftSealed
  rw [openWith_of_sealWith rightSealed] at opened
  exact (Except.ok.inj opened).symm

theorem exists_sealWith_eq_ok_iff (package : Package) (key : Sealing.BlockKey) :
    (∃ sealed, package.sealWith key = .ok sealed) ↔
      package.written.length ≤ Snapshot.writeLimit := by
  constructor
  · rintro ⟨sealed, isSealed⟩
    obtain ⟨bytes, isWritten, _⟩ := sealWith_eq_ok_iff.mp isSealed
    exact (toBytes_eq_ok_iff.mp isWritten).2
  · exact exists_sealWith_eq_ok key

/-- Packages built under one salt by additions that leave the same under each id are the
same block: written alike, named alike and sealed alike under any key. Where the ledger has
the one, registering the other finds it there and changes nothing, whatever else is said of
the block. Packages that differ in their salts, or in the form kept under some id, are
written and sealed differently. There is a sealed form exactly where the written one keeps
to the limit. -/
theorem block_is_settled_by_salt_and_shards
    (compressor : Compressor)
    (level : Int)
    (salt : Bytes)
    (key : Sealing.BlockKey) :
    (∀ first second, (∀ id, lastAdded first id = lastAdded second id) →
      let package := ofAdditions compressor level salt first
      let again := ofAdditions compressor level salt second
      again.toBytes = package.toBytes ∧
        again.blockId = package.blockId ∧
        again.sealWith key = package.sealWith key ∧
        ∀ sealed resealed,
          package.sealWith key = .ok sealed → again.sealWith key = .ok resealed →
            ∀ ledger : Ledger, ledger.contains (ContentId.ofContent sealed) = true →
              ∀ now shards holder validUntil,
                ledger.register now resealed shards holder validUntil =
                  .ok (ContentId.ofContent sealed, ledger)) ∧
      (∀ left right : Package,
        (left.salt ≠ right.salt ∨ ∃ id, left.shards.find? id ≠ right.shards.find? id) →
          (∀ bytes otherBytes,
            left.toBytes = .ok bytes → right.toBytes = .ok otherBytes → bytes ≠ otherBytes) ∧
          ∀ sealed otherSealed,
            left.sealWith key = .ok sealed → right.sealWith key = .ok otherSealed →
              sealed ≠ otherSealed) ∧
      ∀ package : Package, (∃ sealed, package.sealWith key = .ok sealed) ↔
        package.written.length ≤ Snapshot.writeLimit := by
  refine ⟨?_, ?_, fun package => exists_sealWith_eq_ok_iff package key⟩
  · intro first second sameLast package again
    have same : again = package :=
      (ofAdditions_eq_of_lastAdded_eq compressor level salt sameLast).symm
    refine ⟨congrArg toBytes same, congrArg blockId same, congrArg (·.sealWith key) same, ?_⟩
    intro sealed resealed isSealed isResealed ledger present now shards holder validUntil
    rw [same, isSealed] at isResealed
    cases isResealed
    exact Ledger.register_of_contains ledger now _ shards holder validUntil present
  · intro left right different
    have apart : left ≠ right := by
      rw [Ne, eq_iff, not_and_or, not_forall]
      exact different
    refine ⟨?_, ?_⟩
    · rintro bytes _ leftWritten rightWritten rfl
      exact apart (eq_of_toBytes_eq leftWritten rightWritten)
    · rintro sealed _ leftSealed rightSealed rfl
      exact apart (eq_of_sealWith_eq leftSealed rightSealed)

/-- Two shards, each added once. -/
def addedOnce (first second : ShardId) : List (ShardId × Bytes) :=
  [(first, List.replicate 40 97), (second, [9])]

/-- The same two the other way round, one of them in place of other bytes. -/
def addedAgain (first second : ShardId) : List (ShardId × Bytes) :=
  [(first, [1, 2, 3]), (second, [9]), (first, List.replicate 40 97)]

theorem shards_added_again_are_the_block_in_the_ledger :
    ∃ first second : ShardId, ∃ (key : Sealing.BlockKey) (now later : Instant) (sealed : Bytes),
      let build := ofAdditions Compression.Zstandard.compressor 3 [7]
      let ledger :=
        (Ledger.empty { saltLength := 4, maxWindowHours := 9 } (SaltStream.ofSeed 7)).after
          (.added now sealed [first, second] (PeerId.ofByte 7) later)
      (∀ id, lastAdded (addedOnce first second) id = lastAdded (addedAgain first second) id) ∧
        (build (addedOnce first second)).sealWith key = .ok sealed ∧
        (build (addedAgain first second)).sealWith key = .ok sealed ∧
        ledger.register later sealed [second] (PeerId.ofByte 8) now =
          .ok (ContentId.ofContent sealed, ledger) ∧
        ∃ other, (build [(second, [9])]).sealWith key = .ok other ∧ sealed ≠ other := by
  let first := ContentId.repeating 1
  let second := ContentId.repeating 2
  let key : Sealing.BlockKey := { bytes := List.replicate 32 5, length_bytes := rfl }
  let now := (Instant.of? 7500 0).get (by decide)
  let later := (Instant.of? 20000 0).get (by decide)
  let build := ofAdditions Compression.Zstandard.compressor 3 [7]
  obtain ⟨alike, apart, sealable⟩ :=
    block_is_settled_by_salt_and_shards Compression.Zstandard.compressor 3 [7] key
  have sameLast : ∀ id,
      lastAdded (addedOnce first second) id = lastAdded (addedAgain first second) id := by
    intro id
    by_cases isFirst : first = id
    · have notSecond : second ≠ id := by
        rw [← isFirst]
        decide
      simp [lastAdded, addedOnce, addedAgain, isFirst, notSecond]
    · by_cases isSecond : second = id <;>
        simp [lastAdded, addedOnce, addedAgain, isFirst, isSecond]
  obtain ⟨sealed, isSealed⟩ := (sealable (build (addedOnce first second))).mpr (by decide +kernel)
  obtain ⟨other, isOther⟩ := (sealable (build [(second, [9])])).mpr (by decide +kernel)
  obtain ⟨_, _, sameSealed, foundAgain⟩ := alike _ _ sameLast
  have isSealedAgain := sameSealed.trans isSealed
  refine ⟨first, second, key, now, later, sealed, sameLast, isSealed, isSealedAgain, ?_,
    other, isOther, ?_⟩
  · have inTime : ¬ EvidenceCalendar.RunsOutOfTime now later 9 :=
      fun late => absurd late.1 (by decide)
    have isAdded :
        (LedgerEvent.added now sealed [first, second] (PeerId.ofByte 7) later).Adds
          (.empty { saltLength := 4, maxWindowHours := 9 } (SaltStream.ofSeed 7))
          (ContentId.ofContent sealed) :=
      (Ledger.exists_register_eq_ok_iff rfl _ _).mpr inTime
    exact foundAgain sealed sealed isSealed isSealedAgain _ (Ledger.contains_of_adds isAdded) later
      [second] (PeerId.ofByte 8) now
  · refine (apart _ _ (Or.inr ⟨first, ?_⟩)).2 sealed other isSealed isOther
    rw [find?_ofAdditions, find?_ofAdditions]
    exact fun same => Option.some_ne_none _ same

end BlockCustody.Package
