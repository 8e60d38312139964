import BlockCustody.Package.Basic
import BlockCustody.Proofs.Sealing.Opening
import BlockCustody.Proofs.Snapshot.Restoring

/-!
Contract: the written and the sealed form of packages.

Owns:
- that the written form of a package is read back as that package;
- when there is a written form and a sealed form at all;
- that the sealed form opens to the package that was sealed.

Does not own: what is read from bytes that no package is written as.
-/

namespace BlockCustody.Package

open Snapshot

theorem readStored_readsBack {stored : StoredBytes}
    (length_data : stored.data.length < LittleEndian.capacity 8) :
    readStored.ReadsBack (writeStored stored) stored := by
  have dataReads := bytes_readsBack length_data
  exact (flag_readsBack stored.compressed).bind (dataReads.bind_nil (FrontReader.readsBack_pure _))

theorem readStored_restores : Restores readStored writeStored :=
  fun _ countable => readStored_readsBack countable.right.right

theorem reader_restores : Restores reader written := by
  intro package countable
  have saltReads := bytes_restores package.salt countable.left
  have shardsRead :=
    map_restores id_restores length_writeId_pos readStored_restores package.shards countable.right
  exact saltReads.bind (shardsRead.bind_nil (FrontReader.readsBack_pure _))

theorem toBytes_eq_ok_iff {package : Package} {bytes : Bytes} :
    package.toBytes = .ok bytes ↔
      bytes = package.written ∧ package.written.length ≤ writeLimit := by
  rw [← limited_eq_ok_iff]
  unfold toBytes
  split
  · next passed => simp [passed]
  · next refused => simp [refused]

/-- The written form of a package is the written form of no other. -/
theorem ofBytes_of_toBytes
    {package : Package}
    {bytes : Bytes}
    (isWritten : package.toBytes = .ok bytes) :
    ofBytes bytes = .ok package := by
  obtain ⟨rfl, fits⟩ := toBytes_eq_ok_iff.mp isWritten
  exact whole_of_readsBack (reader_restores package (countable_of_le_limit fits))

theorem sealWith_eq_ok_iff {package : Package} {key : Sealing.BlockKey} {sealed : Bytes} :
    package.sealWith key = .ok sealed ↔
      ∃ bytes, package.toBytes = .ok bytes ∧ Sealing.sealContent key bytes = .ok sealed := by
  unfold sealWith
  cases package.toBytes with
  | error fault => simp
  | ok bytes =>
      cases attempt : Sealing.sealContent key bytes with
      | error fault => simp [attempt]
      | ok found => simp [attempt]

/-- The limit on written forms leaves room for sealing all of them. -/
theorem exists_sealWith_eq_ok
    {package : Package}
    (key : Sealing.BlockKey)
    (fits : package.written.length ≤ writeLimit) :
    ∃ sealed, package.sealWith key = .ok sealed := by
  have roomLeft : ¬ package.written.length / 64 ≥ Sealing.blockLimit := by
    simp only [writeLimit, Sealing.blockLimit] at *
    omega
  have isWritten : package.toBytes = .ok package.written := toBytes_eq_ok_iff.mpr ⟨rfl, fits⟩
  obtain ⟨sealed, contentSealed⟩ :
      ∃ sealed, Sealing.sealContent key package.written = .ok sealed := by
    rw [Sealing.sealContent, Sealing.sealUnder, if_neg roomLeft]
    exact ⟨_, rfl⟩
  exact ⟨sealed, sealWith_eq_ok_iff.mpr ⟨package.written, isWritten, contentSealed⟩⟩

/-- A sealed package opens, under the same key, to itself. -/
theorem openWith_of_sealWith
    {package : Package}
    {key : Sealing.BlockKey}
    {sealed : Bytes}
    (isSealed : package.sealWith key = .ok sealed) :
    openWith key sealed = .ok package := by
  obtain ⟨bytes, isWritten, contentSealed⟩ := sealWith_eq_ok_iff.mp isSealed
  simp [openWith, Sealing.openSealed_of_sealContent contentSealed, ofBytes_of_toBytes isWritten]

end BlockCustody.Package
