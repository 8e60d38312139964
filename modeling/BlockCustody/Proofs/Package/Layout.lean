import BlockCustody.Proofs.Package.WrittenForm
import BlockCustody.Proofs.Snapshot.OnlyWritten
import Mathlib.Data.List.Flatten

/-!
Contract: all bytes that are read as packages.

Owns:
- layouts: a salt and entries in any order, with the bytes and the package they stand for;
- that exactly the bytes of layouts are read, each as the package of its layout;
- the layout with the entries of a package in order, which is the one that is written;
- that sealed bytes are read, or refused, as they are before they are sealed.

Does not own: what a package was built from.
-/

namespace BlockCustody.Package

open Snapshot

/-! ## Layouts -/

/-- A salt, and shards under their ids in any order and any number of times. All lengths can
be counted with 64 bits. -/
@[ext]
structure Layout where
  salt : Bytes
  entries : List (ShardId × StoredBytes)
  length_salt : salt.length < LittleEndian.capacity 8
  length_entries : entries.length < LittleEndian.capacity 8
  length_data : ∀ entry ∈ entries, entry.2.data.length < LittleEndian.capacity 8

/-- The id of a shard, then the form it is kept in. -/
def writeEntry (entry : ShardId × StoredBytes) : Bytes :=
  writeId entry.1 ++ writeStored entry.2

namespace Layout

variable {layout other : Layout}

def bytes (layout : Layout) : Bytes :=
  writeBytes layout.salt ++ writeList writeEntry layout.entries

/-- Of entries with the same id the last one counts. -/
def package (layout : Layout) : Package :=
  { salt := layout.salt, shards := KeyedMap.ofList layout.entries }

/-- The ids ascend, so that none is there twice. -/
def Ascending (layout : Layout) : Prop :=
  (layout.entries.map Prod.fst).Pairwise OrderedKey.Before

instance (layout : Layout) : Decidable layout.Ascending :=
  inferInstanceAs (Decidable (List.Pairwise _ _))

/-- In the package of a layout stands, under each id, the last entry for it. -/
theorem eq_package_iff {found : Package} :
    found = layout.package ↔
      found.salt = layout.salt ∧
        ∀ id, found.shards.find? id = KeyedMap.lastUnder layout.entries id := by
  constructor
  · rintro rfl
    exact ⟨rfl, KeyedMap.find?_ofList layout.entries⟩
  · rintro ⟨sameSalt, sameShards⟩
    have sameMap : found.shards = KeyedMap.ofList layout.entries := by
      apply KeyedMap.eq_of_find?_eq
      intro id
      rw [sameShards, KeyedMap.find?_ofList]
    cases found
    simp_all [package]

/-! ## Reading layouts -/

theorem entries_readBack (layout : Layout) :
    (Reader.list (do let id ← Reader.id; return (id, ← readStored))).ReadsBack
      (writeList writeEntry layout.entries) layout.entries :=
  list_readsBack_of_count layout.length_entries fun entry member =>
    entry_readsBack (id_readsBack entry.1) (readStored_readsBack (layout.length_data entry member))

theorem readsBack (layout : Layout) : reader.ReadsBack layout.bytes layout.package := by
  have shardsRead :
      (Reader.map Reader.id readStored).ReadsBack (writeList writeEntry layout.entries)
        layout.package.shards :=
    layout.entries_readBack.bind_nil (FrontReader.readsBack_pure _)
  exact (bytes_readsBack layout.length_salt).bind
    (shardsRead.bind_nil (FrontReader.readsBack_pure layout.package))

/-- The bytes settle the layout, the order of its entries included. -/
theorem bytes_injective (sameBytes : layout.bytes = other.bytes) : layout = other := by
  obtain ⟨sameSalt, sameList⟩ :=
    (bytes_readsBack layout.length_salt).eq_of_append_eq (bytes_readsBack other.length_salt)
      sameBytes
  obtain ⟨sameEntries, _⟩ :=
    layout.entries_readBack.eq_of_append_eq other.entries_readBack (congrArg (· ++ []) sameList)
  exact Layout.ext sameSalt sameEntries

/-! ## The layout that is written -/

/-- The entries that count, in order. -/
def inOrder (layout : Layout) : Layout :=
  have fromEntries := KeyedMap.subperm_entries_ofList layout.entries
  { salt := layout.salt
    entries := layout.package.shards.entries
    length_salt := layout.length_salt
    length_entries := Nat.lt_of_le_of_lt fromEntries.length_le layout.length_entries
    length_data := fun entry member => layout.length_data entry (fromEntries.subset member) }

theorem written_package (layout : Layout) : layout.package.written = layout.inOrder.bytes :=
  rfl

theorem inOrder_eq_iff : layout.inOrder = layout ↔ layout.Ascending := by
  rw [Ascending, List.pairwise_map, ← KeyedMap.entries_ofList_eq_iff]
  constructor
  · intro same
    exact congrArg Layout.entries same
  · intro sameEntries
    exact Layout.ext rfl sameEntries

/-- Entries that do not count are left out of what is written. -/
theorem length_bytes_inOrder_le (layout : Layout) :
    layout.inOrder.bytes.length ≤ layout.bytes.length := by
  obtain ⟨kept, inSomeOrder, areEntries⟩ := KeyedMap.subperm_entries_ofList layout.entries
  have sameLength := (inSomeOrder.flatMap_right writeEntry).length_eq
  have noLonger := (areEntries.flatMap writeEntry).length_le
  have isEntries : layout.inOrder.entries = (KeyedMap.ofList layout.entries).entries := rfl
  have isSalt : layout.inOrder.salt = layout.salt := rfl
  simp only [bytes, writeList, writeNumber, List.length_append, LittleEndian.length_encode,
    isEntries, isSalt]
  omega

end Layout

/-! ## Bytes that are read -/

theorem readStored_readsOnly :
    readStored.ReadsOnly fun stored taken =>
      stored.data.length < LittleEndian.capacity 8 ∧ taken = writeStored stored := by
  apply flag_readsOnly.bind
  rintro compressed _ rfl
  apply bytes_readsOnly.bind
  rintro data _ ⟨length_data, rfl⟩
  apply FrontReader.readsOnly_pure
  refine ⟨length_data, ?_⟩
  rw [List.append_nil, writeStored]

/-- A package is found only where a layout of it stands. -/
theorem reader_readsOnly :
    reader.ReadsOnly fun package taken =>
      ∃ layout : Layout, taken = layout.bytes ∧ package = layout.package := by
  apply bytes_readsOnly.bind
  rintro salt _ ⟨length_salt, rfl⟩
  apply (map_readsOnly id_readsOnly readStored_readsOnly).bind
  rintro _ _ ⟨entries, ⟨length_entries, length_data⟩, rfl, rfl⟩
  apply FrontReader.readsOnly_pure
  let layout : Layout := { salt, entries, length_salt, length_entries, length_data }
  refine ⟨layout, ?_, rfl⟩
  rw [List.append_nil]
  rfl

/-- Exactly the bytes of layouts are read as packages. -/
theorem ofBytes_eq_ok_iff {bytes : Bytes} {package : Package} :
    ofBytes bytes = .ok package ↔
      ∃ layout : Layout, bytes = layout.bytes ∧ package = layout.package := by
  constructor
  · intro accepted
    have isRead := whole_eq_ok_iff.mp accepted
    obtain ⟨_, ⟨layout, rfl, isPackage⟩, isBytes⟩ := reader_readsOnly _ _ _ isRead
    exact ⟨layout, by rw [isBytes, List.append_nil], isPackage⟩
  · rintro ⟨layout, rfl, rfl⟩
    exact whole_of_readsBack layout.readsBack

/-- A package that was read is written with its entries in order, which takes no more
bytes. -/
theorem toBytes_package
    {layout : Layout}
    (fits : layout.bytes.length ≤ writeLimit) :
    layout.package.toBytes = .ok layout.inOrder.bytes := by
  refine toBytes_eq_ok_iff.mpr ⟨layout.written_package.symm, ?_⟩
  rw [layout.written_package]
  exact Nat.le_trans layout.length_bytes_inOrder_le fits

/-- Sealed bytes are read as what they are the sealed form of, and refused for the same
reason. -/
theorem openWith_of_sealUnder
    {key : Sealing.BlockKey}
    {nonce : Sealing.Nonce}
    {bytes sealed : Bytes}
    (isSealed : Sealing.sealUnder key nonce bytes = .ok sealed) :
    openWith key sealed =
      (ofBytes bytes).mapError fun fault => .corrupt (.format fault) := by
  have opened := Sealing.openSealed_of_sealUnder isSealed
  cases decoded : ofBytes bytes with
  | error fault => simp [openWith, opened, decoded, Except.mapError]
  | ok package => simp [openWith, opened, decoded, Except.mapError]

/-- Exactly the bytes of layouts are read as packages: a counted salt and a counted number
of entries, each an id, a flag and counted data, with nothing left over. The package has the
salt and, under each id, what the last entry for it has. If the bytes keep to the limit of
what is written, the package is written again, and that is read as the same package. It is
the bytes themselves exactly if their ids ascend, and the block is then named by them.
Sealed bytes are read as the same package, or are corrupt for the same reason in the same
words. -/
theorem packages_are_read_exactly_up_to_order (bytes : Bytes) :
    (∀ package, ofBytes bytes = .ok package ↔
      ∃ layout : Layout, bytes = layout.bytes ∧ package.salt = layout.salt ∧
        ∀ id, package.shards.find? id = KeyedMap.lastUnder layout.entries id) ∧
      (∀ layout : Layout, bytes = layout.bytes → bytes.length ≤ writeLimit →
        ∃ package again,
          ofBytes bytes = .ok package ∧
            package.toBytes = .ok again ∧
            ofBytes again = .ok package ∧
            (again = bytes ↔ layout.Ascending) ∧
            (layout.Ascending → package.blockId = .ok (ContentId.ofContent bytes))) ∧
      ∀ key nonce sealed, Sealing.sealUnder key nonce bytes = .ok sealed →
        (∀ package, openWith key sealed = .ok package ↔ ofBytes bytes = .ok package) ∧
          (∀ reason, openWith key sealed = .error reason ↔
            ∃ fault, ofBytes bytes = .error fault ∧ reason = .corrupt (.format fault)) ∧
          ∀ fault : FormatFault,
            (PackageFault.corrupt (.format fault)).message =
              "Corrupt package: " ++ fault.message := by
  refine ⟨?_, ?_, ?_⟩
  · intro package
    simp only [ofBytes_eq_ok_iff, Layout.eq_package_iff]
  · rintro layout rfl fits
    have isRead := ofBytes_eq_ok_iff.mpr ⟨layout, rfl, rfl⟩
    have isWritten := toBytes_package fits
    have sameAgain : layout.inOrder.bytes = layout.bytes ↔ layout.Ascending := by
      rw [← Layout.inOrder_eq_iff]
      exact ⟨Layout.bytes_injective, congrArg Layout.bytes⟩
    refine ⟨_, _, isRead, isWritten, ofBytes_of_toBytes isWritten, sameAgain, ?_⟩
    intro ascending
    rw [blockId, isWritten, sameAgain.mpr ascending]
  · intro key nonce sealed isSealed
    have opened := openWith_of_sealUnder isSealed
    refine ⟨?_, ?_, fun fault => rfl⟩
    · intro package
      rw [opened]
      cases ofBytes bytes <;> simp [Except.mapError]
    · intro reason
      rw [opened]
      cases ofBytes bytes <;> simp [Except.mapError, eq_comm]

/-- Two ids in descending order, the first of them given again after the second. -/
def givenAgain : Layout :=
  { salt := [9]
    entries :=
      [(.repeating 2, { compressed := false, data := [5] }),
        (.repeating 1, { compressed := true, data := [6, 7] }),
        (.repeating 2, { compressed := false, data := [8] })]
    length_salt := by decide
    length_entries := by decide
    length_data := by decide }

theorem id_given_again_is_read_as_given_last_and_written_once :
    let key : Sealing.BlockKey := { bytes := List.replicate 32 5, length_bytes := rfl }
    let nonce : Sealing.Nonce := { bytes := List.replicate 24 6, length_bytes := rfl }
    ∃ package again sealed,
      ofBytes givenAgain.bytes = .ok package ∧
        package.shards.find? (.repeating 2) = some { compressed := false, data := [8] } ∧
        package.toBytes = .ok again ∧
        again ≠ givenAgain.bytes ∧
        ofBytes again = .ok package ∧
        Sealing.sealUnder key nonce givenAgain.bytes = .ok sealed ∧
        openWith key sealed = .ok package := by
  intro key nonce
  obtain ⟨accepts, writtenAgain, openedAlike⟩ :=
    packages_are_read_exactly_up_to_order givenAgain.bytes
  obtain ⟨package, again, isRead, isWritten, readAgain, sameIff, _⟩ :=
    writtenAgain givenAgain rfl (by decide +kernel)
  obtain ⟨layout, sameBytes, _, lastUnder⟩ := (accepts package).mp isRead
  obtain rfl := Layout.bytes_injective sameBytes
  obtain ⟨sealed, isSealed⟩ :
      ∃ sealed, Sealing.sealUnder key nonce givenAgain.bytes = .ok sealed :=
    ⟨_, if_neg (by decide +kernel)⟩
  refine ⟨package, again, sealed, isRead, ?_, isWritten, ?_, readAgain, isSealed, ?_⟩
  · rw [lastUnder]
    decide +kernel
  · intro same
    exact absurd (sameIff.mp same) (by decide +kernel)
  · exact ((openedAlike key nonce sealed isSealed).1 package).mpr isRead

end BlockCustody.Package
