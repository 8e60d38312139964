import BlockCustody.Exchange.Book
import BlockCustody.Proofs.Exchange.Contract

/-!
Contract: the book of contracts as one contract for each peer.

Owns:
- the events of a book and runs of them;
- what an event does to the contract of its peer, and that it does nothing to others;
- which peers a run has dealt with, and which of them would take another block.

Does not own: the rules of a single contract.
-/

namespace BlockCustody

/-- What happens to a book. -/
inductive BookEvent where
  | added (peer : PeerId) (side : Side) (block : BlockId)
  | removed (peer : PeerId) (side : Side) (block : BlockId)
  | slackBasesSet (peer : PeerId) (mySlackBase peerSlackBase : UInt64)
deriving DecidableEq

namespace BookEvent

def peer : BookEvent → PeerId
  | .added peer _ _ => peer
  | .removed peer _ _ => peer
  | .slackBasesSet peer _ _ => peer

/-- The event as its peer's contract sees it. -/
def contractEvents : BookEvent → List ContractEvent
  | .added _ side block => [.added side block]
  | .removed _ side block => [.removed side block]
  | .slackBasesSet _ mySlackBase peerSlackBase =>
      [.rebased .mine mySlackBase, .rebased .theirs peerSlackBase]

/-- Whether the event needs a contract, and opens one if there is none. -/
def opens : BookEvent → Bool
  | .added _ _ _ => true
  | .removed _ _ _ => false
  | .slackBasesSet _ _ _ => true

/-- A history as the contract of one peer sees it. -/
def eventsWith (peer : PeerId) (history : List BookEvent) : List ContractEvent :=
  history.flatMap fun event => if event.peer = peer then event.contractEvents else []

end BookEvent

namespace ExchangeBook

def after (book : ExchangeBook) : BookEvent → ExchangeBook
  | .added peer side block => (book.add peer side block).2
  | .removed peer side block => book.remove peer side block
  | .slackBasesSet peer mySlackBase peerSlackBase =>
      book.setSlackBases peer mySlackBase peerSlackBase

/-- The book after events in the order in which they happened. -/
def run (book : ExchangeBook) (history : List BookEvent) : ExchangeBook :=
  history.foldl after book

variable {book : ExchangeBook} {peer : PeerId}

/-! ## Contracts and peers -/

theorem contract_of_unknown (unknown : book.contracts.find? peer = none) :
    book.contract peer = book.freshContract := by
  rw [contract, unknown, Option.getD_none]

theorem contract_of_known
    {known : ExchangeContract}
    (found : book.contracts.find? peer = some known) :
    book.contract peer = known := by
  rw [contract, found, Option.getD_some]

theorem contract_setContract (book : ExchangeBook) (changed peer : PeerId)
    (changedTo : ExchangeContract) :
    (book.setContract changed changedTo).contract peer =
      if peer = changed then changedTo else book.contract peer := by
  rw [contract, setContract, KeyedMap.find?_insert]
  split <;> rfl

theorem mem_peers_setContract {changed : PeerId} {changedTo : ExchangeContract} :
    peer ∈ (book.setContract changed changedTo).peers ↔ peer ∈ book.peers ∨ changed = peer := by
  simp only [peers, KeyedMap.mem_keys_iff, KeyedMap.contains, setContract, KeyedMap.find?_insert]
  split
  · next same => simp [same]
  · next distinct => simp [Ne.symm distinct]

theorem mem_peersWithSpace_iff :
    peer ∈ book.peersWithSpace ↔
      peer ∈ book.peers ∧ 1 ≤ (book.contract peer).headroom .theirs := by
  rw [← ExchangeContract.availableSpace_pos_iff]
  simp only [peersWithSpace, peers, KeyedMap.mem_keys_iff, KeyedMap.contains_eq_true_iff,
    KeyedMap.find?_filter_eq_some_iff, decide_eq_true_eq, contract]
  constructor
  · rintro ⟨known, found, room⟩
    rw [found]
    exact ⟨⟨known, rfl⟩, room⟩
  · rintro ⟨⟨known, found⟩, room⟩
    rw [found] at room
    exact ⟨known, found, room⟩

/-! ## Single events -/

/-- Adding is judged by the peer's contract, and kept in the book whatever the outcome. -/
theorem add_eq (book : ExchangeBook) (peer : PeerId) (side : Side) (block : BlockId) :
    book.add peer side block =
      (((book.contract peer).add side block).map fun _ => (),
        book.setContract peer ((book.contract peer).after (.added side block))) := by
  rw [add, ExchangeContract.after]
  cases (book.contract peer).add side block <;> rfl

/-- Taking a block off an unknown peer leaves a fresh contract fresh. -/
theorem contract_remove (book : ExchangeBook) (changed peer : PeerId) (side : Side)
    (block : BlockId) :
    (book.remove changed side block).contract peer =
      if peer = changed then (book.contract peer).remove side block else book.contract peer := by
  unfold remove
  split
  · next unknown =>
      split
      · next same =>
          subst same
          have noBlocks : (book.freshContract.held side).contains block = false := by
            cases side <;> rfl
          rw [contract_of_unknown unknown, ExchangeContract.remove_of_absent noBlocks]
      · rfl
  · next known found =>
      rw [contract_setContract]
      split
      · next same => rw [same, contract_of_known found]
      · rfl

/-- An event changes the contract of its peer, as the contract sees it, and no other. -/
theorem contract_after (book : ExchangeBook) (event : BookEvent) (peer : PeerId) :
    (book.after event).contract peer =
      (book.contract peer).run (if event.peer = peer then event.contractEvents else []) := by
  cases event with
  | added changed side block =>
      rw [after, add_eq, contract_setContract]
      by_cases same : changed = peer
      · simp [same, BookEvent.peer, BookEvent.contractEvents, ExchangeContract.run]
      · simp [same, Ne.symm same, BookEvent.peer, ExchangeContract.run]
  | removed changed side block =>
      rw [after, contract_remove]
      by_cases same : changed = peer
      · simp [same, BookEvent.peer, BookEvent.contractEvents, ExchangeContract.run,
          ExchangeContract.after]
      · simp [same, Ne.symm same, BookEvent.peer, ExchangeContract.run]
  | slackBasesSet changed mySlackBase peerSlackBase =>
      rw [after, setSlackBases, contract_setContract]
      by_cases same : changed = peer
      · simp [same, BookEvent.peer, BookEvent.contractEvents, ExchangeContract.run,
          ExchangeContract.after]
      · simp [same, Ne.symm same, BookEvent.peer, ExchangeContract.run]

theorem mem_peers_after {event : BookEvent} :
    peer ∈ (book.after event).peers ↔
      peer ∈ book.peers ∨ event.peer = peer ∧ event.opens = true := by
  cases event with
  | added changed side block =>
      rw [after, add_eq, mem_peers_setContract]
      simp [BookEvent.peer, BookEvent.opens]
  | removed changed side block =>
      rw [after]
      unfold remove
      split
      · simp [BookEvent.opens]
      · next known found =>
          rw [mem_peers_setContract]
          have isPeer : changed ∈ book.peers :=
            KeyedMap.mem_keys_iff.mpr (KeyedMap.contains_eq_true_iff.mpr ⟨known, found⟩)
          simp only [BookEvent.opens, Bool.false_eq_true, and_false, or_false]
          constructor
          · rintro (known | rfl)
            · exact known
            · exact isPeer
          · exact Or.inl
  | slackBasesSet changed mySlackBase peerSlackBase =>
      rw [after, setSlackBases, mem_peers_setContract]
      simp [BookEvent.peer, BookEvent.opens]

/-! ## Runs -/

theorem contract_run (book : ExchangeBook) (history : List BookEvent) (peer : PeerId) :
    (book.run history).contract peer =
      (book.contract peer).run (BookEvent.eventsWith peer history) := by
  induction history generalizing book with
  | nil => rfl
  | cons event later inductionHypothesis =>
      have laterRun := inductionHypothesis (book.after event)
      rw [contract_after] at laterRun
      rw [BookEvent.eventsWith, List.flatMap_cons, ExchangeContract.run, List.foldl_append]
      exact laterRun

theorem mem_peers_run (book : ExchangeBook) (history : List BookEvent) :
    peer ∈ (book.run history).peers ↔
      peer ∈ book.peers ∨ ∃ event ∈ history, event.peer = peer ∧ event.opens = true := by
  induction history generalizing book with
  | nil => simp [run]
  | cons event later inductionHypothesis =>
      have laterRun := inductionHypothesis (book.after event)
      rw [mem_peers_after] at laterRun
      simp only [List.mem_cons, exists_eq_or_imp]
      rw [← or_assoc]
      exact laterRun

/-- After any run, each peer's contract is what that peer's own events make of a fresh
one: the same contract, the same room, the same outcome of a further addition. A refusal
is seen in no contract. The peers of the book are those something was added for or bases
were set for, and those with space are the ones for which a new block would pass. -/
theorem book_keeps_an_independent_contract_for_each_peer
    (settings : ExchangeSettings)
    (history : List BookEvent) :
    let book := (empty settings).run history
    let alone (peer : PeerId) : ExchangeContract :=
      (ExchangeContract.fresh settings.mySlackBase settings.peerSlackBase).run
        (BookEvent.eventsWith peer history)
    (∀ peer,
      book.contract peer = alone peer ∧
        (∀ side, book.availableSpace peer side = (alone peer).availableSpace side) ∧
        ∀ side block,
          (book.add peer side block).1 = ((alone peer).add side block).map fun _ => ()) ∧
      (∀ peer side block fault, (book.add peer side block).1 = .error fault →
        ∀ other, (book.add peer side block).2.contract other = book.contract other) ∧
      book.peers.Nodup ∧
      (∀ peer, peer ∈ book.peers ↔
        ∃ event ∈ history, event.peer = peer ∧ event.opens = true) ∧
      ∀ peer block, (book.contract peer).theirs.contains block = false →
        (peer ∈ book.peersWithSpace ↔
          peer ∈ book.peers ∧ (book.add peer .theirs block).1 = .ok ()) := by
  intro book alone
  have sameContract : ∀ peer, book.contract peer = alone peer :=
    contract_run (empty settings) history
  refine ⟨?_, ?_, KeyedMap.nodup_keys _, ?_, ?_⟩
  · intro peer
    refine ⟨sameContract peer, ?_, ?_⟩
    · intro side
      rw [availableSpace, sameContract]
    · intro side block
      rw [add_eq, sameContract]
  · intro peer side block fault refused other
    have unchanged : (book.contract peer).after (.added side block) = book.contract peer := by
      rw [add_eq] at refused
      rw [ExchangeContract.after]
      cases outcome : (book.contract peer).add side block with
      | error _ => rfl
      | ok _ => simp [outcome, Except.map] at refused
    rw [add_eq, unchanged, contract_setContract]
    split
    · next same => rw [same]
    · rfl
  · intro peer
    have noneYet : peer ∉ (empty settings).peers := List.not_mem_nil
    simp [book, mem_peers_run, noneYet]
  · intro peer block isNew
    have absent : ((book.contract peer).held .theirs).contains block = false := isNew
    rw [mem_peersWithSpace_iff, add_eq, ExchangeContract.add_passes_iff, absent]
    simp

/-- Two peers dealt with in turns: the first is refused a second block; the second loses
a block it never had, is refused one, and is asked again under a larger base. -/
def dealingsInTurns (first second : PeerId) : List BookEvent :=
  [.added first .mine (.repeating 1), .removed second .mine (.repeating 1),
    .added first .mine (.repeating 2), .added second .theirs (.repeating 3),
    .slackBasesSet second 0 2, .added second .theirs (.repeating 3)]

theorem dealings_in_turns_leave_one_peer_full_and_the_other_with_space :
    ∃ first second : PeerId, ∃ fault,
      let book := (empty { mySlackBase := 1, peerSlackBase := 0 }).run
        (dealingsInTurns first second)
      first ≠ second ∧
        (book.add first .mine (.repeating 2)).1 = .error fault ∧
        (∀ other, (book.add first .mine (.repeating 2)).2.contract other = book.contract other) ∧
        book.contract first =
          (ExchangeContract.fresh 1 0).run
            [.added .mine (.repeating 1), .added .mine (.repeating 2)] ∧
        second ∈ book.peersWithSpace := by
  let first : PeerId := { bytes := [0, 1, 1], wellFormed := ⟨rfl, Or.inr ⟨rfl, by decide⟩⟩ }
  let second : PeerId := { bytes := [0, 1, 2], wellFormed := ⟨rfl, Or.inr ⟨rfl, by decide⟩⟩ }
  obtain ⟨contracts, refusals, _, known, withSpace⟩ :=
    book_keeps_an_independent_contract_for_each_peer
      { mySlackBase := 1, peerSlackBase := 0 } (dealingsInTurns first second)
  have refused :
      (((empty { mySlackBase := 1, peerSlackBase := 0 }).run
          (dealingsInTurns first second)).add first .mine (.repeating 2)).1 =
        .error { block := .repeating 2, side := .mine, headroom := 0 } := by
    decide +kernel
  have isNew :
      (((empty { mySlackBase := 1, peerSlackBase := 0 }).run
          (dealingsInTurns first second)).contract second).theirs.contains (.repeating 4) =
        false := by
    decide +kernel
  have isKnown := (known second).mpr ⟨.slackBasesSet second 0 2, by decide, rfl, rfl⟩
  exact ⟨first, second, _, by decide, refused, refusals _ _ _ _ refused,
    (contracts first).1, (withSpace second _ isNew).mpr ⟨isKnown, by decide +kernel⟩⟩

end ExchangeBook

end BlockCustody
