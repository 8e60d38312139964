import BlockCustody.Proofs.Exchange.Book
import BlockCustody.Proofs.Snapshot.AnyOrder

/-!
Contract: the book comes back from each form of its snapshot.

Owns:
- the forms of a contract and of a book, in which blocks stand in any order;
- that they are read back as the contracts of the book;
- which contracts the settings of a restored book decide.

Does not own: the rules of a single contract.
-/

namespace BlockCustody.ExchangeBook

open Snapshot

variable {book : ExchangeBook} {bytes : Bytes}

/-! ## Forms -/

def contractForm : WrittenAs ExchangeContract :=
  fun contract written => ∃ mine theirs,
    setForm writeId contract.mine mine ∧ setForm writeId contract.theirs theirs ∧
      written =
        mine ++ (theirs ++
          (writeNumber contract.mySlackBase.toNat ++ writeNumber contract.peerSlackBase.toNat))

/-- The bytes are the book's snapshot, with the blocks of each side in some order. -/
def SnapshotForm (book : ExchangeBook) (bytes : Bytes) : Prop :=
  ∃ body, mapForm writePeer contractForm book.contracts body ∧ write body = .ok bytes

theorem snapshotForm_of_toSnapshot (isWritten : book.toSnapshot = .ok bytes) :
    book.SnapshotForm bytes := by
  have contractHasForm : ∀ contract, contractForm contract (writeContract contract) := by
    intro contract
    refine ⟨_, _, setForm_writeSet writeId _, setForm_writeSet writeId _, ?_⟩
    simp only [writeContract, List.append_assoc]
  exact ⟨_, mapForm_writeMap contractHasForm book.contracts, isWritten⟩

/-! ## Reading -/

theorem word_readsBack (word : UInt64) :
    Reader.number.ReadsBack (writeNumber word.toNat) word.toNat :=
  number_readsBack word.toNat_lt

theorem readContract_restoresEach : RestoresEach readContract contractForm := by
  rintro contract _ ⟨mine, theirs, mineForm, theirsForm, rfl⟩ countable
  have setRestores := set_restoresEach id_restores length_writeId_pos
  have mineRead := setRestores _ _ mineForm countable.left
  have theirsRead := setRestores _ _ theirsForm countable.right.left
  refine mineRead.bind (theirsRead.bind ((word_readsBack contract.mySlackBase).bind
    ((word_readsBack contract.peerSlackBase).bind_nil ?_)))
  simp only [Nat.toUInt64_eq, UInt64.ofNat_toNat]
  exact FrontReader.readsBack_pure contract

theorem ofSnapshot_of_form (isForm : book.SnapshotForm bytes) (settings : ExchangeSettings) :
    ofSnapshot settings bytes = .ok { book with settings } := by
  obtain ⟨body, bodyForm, isWritten⟩ := isForm
  have restores := map_restoresEach peer_restores length_writePeer_pos readContract_restoresEach
  rw [ofSnapshot, read_of_readsBack (restores _ _ bodyForm) isWritten]

/-- A known peer keeps its contract, whatever the settings; any other is seen with a fresh
one under the new settings. -/
theorem contract_with_settings (book : ExchangeBook) (settings : ExchangeSettings)
    (peer : PeerId) :
    { book with settings : ExchangeBook }.contract peer =
      if peer ∈ book.peers then book.contract peer
      else ExchangeContract.fresh settings.mySlackBase settings.peerSlackBase := by
  have isKnown : peer ∈ book.peers ↔ book.contracts.contains peer = true := by
    rw [peers, KeyedMap.mem_keys_iff]
  cases found : book.contracts.find? peer with
  | none =>
      have unknown : ¬ peer ∈ book.peers := by
        rw [isKnown, KeyedMap.contains_eq_false_iff.mpr found]
        exact Bool.false_ne_true
      rw [if_neg unknown, contract, found, Option.getD_none, freshContract]
  | some known =>
      have present : peer ∈ book.peers :=
        isKnown.mpr (KeyedMap.contains_eq_true_iff.mpr ⟨known, found⟩)
      rw [if_pos present, contract_of_known found]
      simp only [contract, found, Option.getD_some]

end BlockCustody.ExchangeBook
