import BlockCustody.Proofs.Exchange.Book

/-!
Contract: a contract as the two peers between whom it is see it.

Owns:
- the mirror image of a contract, of what happens to it and of a refusal;
- that mirrored events have mirrored outcomes and leave the mirrored contract;
- that the books of two peers who record the same dealings agree on their contract.

Does not own: how the peers come to record the same dealings.
-/

namespace BlockCustody

/-- The event as the other end of the contract sees it. -/
def ContractEvent.mirror : ContractEvent → ContractEvent
  | .added side block => .added side.other block
  | .removed side block => .removed side.other block
  | .rebased side base => .rebased side.other base

/-- The refusal as the other end of the contract gives it. -/
def SpaceExhausted.mirror (fault : SpaceExhausted) : SpaceExhausted :=
  { fault with side := fault.side.other }

/-- The settings of a node that agrees on the bases from the other end. -/
def ExchangeSettings.mirror (settings : ExchangeSettings) : ExchangeSettings :=
  { mySlackBase := settings.peerSlackBase
    peerSlackBase := settings.mySlackBase }

/-- The event as the other end records it, to which this one is the peer `known`. -/
def BookEvent.mirror (known : PeerId) : BookEvent → BookEvent
  | .added _ side block => .added known side.other block
  | .removed _ side block => .removed known side.other block
  | .slackBasesSet _ mySlackBase peerSlackBase =>
      .slackBasesSet known peerSlackBase mySlackBase

namespace ExchangeContract

/-- The contract as the other end sees it: what is `mine` here is `theirs` there. -/
def mirror (contract : ExchangeContract) : ExchangeContract :=
  { mine := contract.theirs
    theirs := contract.mine
    mySlackBase := contract.peerSlackBase
    peerSlackBase := contract.mySlackBase }

/-- What an event answers. Only an addition can be refused. -/
def outcome (contract : ExchangeContract) : ContractEvent → Except SpaceExhausted Unit
  | .added side block => (contract.add side block).map fun _ => ()
  | .removed _ _ => .ok ()
  | .rebased _ _ => .ok ()

/-- What events answer one after another. -/
def outcomes : ExchangeContract → List ContractEvent → List (Except SpaceExhausted Unit)
  | _, [] => []
  | contract, event :: later => contract.outcome event :: (contract.after event).outcomes later

/-! ## Mirrored contracts -/

theorem mirror_fresh (mySlackBase peerSlackBase : UInt64) :
    (fresh mySlackBase peerSlackBase).mirror = fresh peerSlackBase mySlackBase :=
  rfl

@[simp]
theorem held_mirror (contract : ExchangeContract) (side : Side) :
    contract.mirror.held side = contract.held side.other := by
  cases side <;> rfl

@[simp]
theorem slackBase_mirror (contract : ExchangeContract) (side : Side) :
    contract.mirror.slackBase side = contract.slackBase side.other := by
  cases side <;> rfl

theorem count_mirror (contract : ExchangeContract) (side : Side) :
    contract.mirror.count side = contract.count side.other := by
  rw [count, held_mirror, count]

theorem mirror_setHeld (contract : ExchangeContract) (side : Side) (blocks : KeySet BlockId) :
    contract.mirror.setHeld side.other blocks = (contract.setHeld side blocks).mirror := by
  cases side <;> rfl

theorem mirror_setSlackBase (contract : ExchangeContract) (side : Side) (base : UInt64) :
    contract.mirror.setSlackBase side.other base = (contract.setSlackBase side base).mirror := by
  cases side <;> rfl

/-- The smaller side is the same from either end, and with it the slack that was earned. -/
theorem headroom_mirror (contract : ExchangeContract) (side : Side) :
    contract.mirror.headroom side.other = contract.headroom side := by
  rw [headroom_eq, headroom_eq]
  simp only [count_mirror, slackBase_mirror, Side.other_other]

theorem availableSpace_mirror (contract : ExchangeContract) (side : Side) :
    contract.mirror.availableSpace side.other = contract.availableSpace side := by
  rw [availableSpace, headroom_mirror, availableSpace]

/-! ## Mirrored events -/

theorem add_mirror (contract : ExchangeContract) (side : Side) (block : BlockId) :
    contract.mirror.add side.other block =
      ((contract.add side block).map mirror).mapError SpaceExhausted.mirror := by
  unfold add
  rw [held_mirror, Side.other_other, headroom_mirror, mirror_setHeld]
  split
  · rfl
  · split
    · rfl
    · rfl

theorem outcome_mirror (contract : ExchangeContract) (event : ContractEvent) :
    contract.mirror.outcome event.mirror =
      (contract.outcome event).mapError SpaceExhausted.mirror := by
  cases event with
  | added side block =>
      rw [ContractEvent.mirror, outcome, outcome, add_mirror]
      cases contract.add side block <;> rfl
  | removed side block => rfl
  | rebased side base => rfl

theorem after_mirror (contract : ExchangeContract) (event : ContractEvent) :
    contract.mirror.after event.mirror = (contract.after event).mirror := by
  cases event with
  | added side block =>
      rw [ContractEvent.mirror, after, after, add_mirror]
      cases contract.add side block <;> rfl
  | removed side block =>
      rw [ContractEvent.mirror, after, after, remove, remove, held_mirror, Side.other_other,
        mirror_setHeld]
  | rebased side base =>
      rw [ContractEvent.mirror, after, after, mirror_setSlackBase]

/-! ## Mirrored runs -/

theorem run_mirror (contract : ExchangeContract) (history : List ContractEvent) :
    contract.mirror.run (history.map .mirror) = (contract.run history).mirror := by
  induction history generalizing contract with
  | nil => rfl
  | cons event later inductionHypothesis =>
      have laterRun := inductionHypothesis (contract.after event)
      rw [← after_mirror] at laterRun
      exact laterRun

theorem outcomes_mirror (contract : ExchangeContract) (history : List ContractEvent) :
    contract.mirror.outcomes (history.map .mirror) =
      (contract.outcomes history).map fun outcome => outcome.mapError SpaceExhausted.mirror := by
  induction history generalizing contract with
  | nil => rfl
  | cons event later inductionHypothesis =>
      rw [List.map_cons, outcomes, outcomes, List.map_cons, outcome_mirror, after_mirror,
        inductionHypothesis]

/-- The other end sets the two bases in the other order, which makes no difference. -/
theorem run_contractEvents_mirror (contract : ExchangeContract) (known : PeerId)
    (event : BookEvent) :
    contract.mirror.run (event.mirror known).contractEvents =
      (contract.run event.contractEvents).mirror := by
  cases event with
  | added peer side block => exact contract.run_mirror [.added side block]
  | removed peer side block => exact contract.run_mirror [.removed side block]
  | slackBasesSet peer mySlackBase peerSlackBase => rfl

theorem run_flatMap_mirror (contract : ExchangeContract) (known : PeerId)
    (dealings : List BookEvent) :
    contract.mirror.run ((dealings.map (.mirror known)).flatMap BookEvent.contractEvents) =
      (contract.run (dealings.flatMap BookEvent.contractEvents)).mirror := by
  induction dealings generalizing contract with
  | nil => rfl
  | cons event later inductionHypothesis =>
      have laterRun := inductionHypothesis (contract.run event.contractEvents)
      rw [← run_contractEvents_mirror contract known event] at laterRun
      simp only [List.map_cons, List.flatMap_cons, run, List.foldl_append]
      exact laterRun

end ExchangeContract

theorem BookEvent.eventsWith_eq (peer : PeerId) (history : List BookEvent) :
    eventsWith peer history =
      (history.filter fun event => event.peer = peer).flatMap contractEvents := by
  induction history with
  | nil => rfl
  | cons event later inductionHypothesis =>
      rw [eventsWith, List.flatMap_cons, ← eventsWith, inductionHypothesis, List.filter_cons]
      by_cases dealt : event.peer = peer
      · simp [dealt]
      · simp [dealt]

/-- What either node records about other peers does not matter. -/
theorem ExchangeBook.contract_run_mirror
    {here there : PeerId}
    {settings : ExchangeSettings}
    {dealtHere dealtThere : List BookEvent}
    (sameDealings :
      dealtThere.filter (fun event => event.peer = here) =
        (dealtHere.filter fun event => event.peer = there).map (.mirror here)) :
    ((empty settings.mirror).run dealtThere).contract here =
      (((empty settings).run dealtHere).contract there).mirror := by
  have mirroredStart : (empty settings.mirror).contract here =
      ((empty settings).contract there).mirror := rfl
  rw [contract_run, contract_run, BookEvent.eventsWith_eq, BookEvent.eventsWith_eq, sameDealings,
    mirroredStart]
  exact ExchangeContract.run_flatMap_mirror _ _ _

/-- Mirrored events have the mirrored outcomes, one by one, and leave the mirrored contract. So
when the two ends of a contract agree on the bases at its start and the same has happened at
both, each seeing it from its end, the room one end has on a side is the room the other has on
the opposite side, and a block that one would admit or refuse there, the other would admit or
refuse with the same headroom. The same is true of the books of two nodes, whatever else they
record about other peers. -/
theorem both_ends_of_a_contract_agree :
    (∀ (contract : ExchangeContract) (history : List ContractEvent),
      contract.mirror.outcomes (history.map .mirror) =
          (contract.outcomes history).map (fun outcome => outcome.mapError .mirror) ∧
        contract.mirror.run (history.map .mirror) = (contract.run history).mirror) ∧
      (∀ (mySlackBase peerSlackBase : UInt64) (history : List ContractEvent) (side : Side),
        let here := (ExchangeContract.fresh mySlackBase peerSlackBase).run history
        let there := (ExchangeContract.fresh peerSlackBase mySlackBase).run (history.map .mirror)
        there.held side.other = here.held side ∧
          there.slackBase side.other = here.slackBase side ∧
          there.availableSpace side.other = here.availableSpace side ∧
          ∀ block, there.outcome (.added side.other block) =
            (here.outcome (.added side block)).mapError .mirror) ∧
      ∀ (here there : PeerId) (settings : ExchangeSettings)
        (dealtHere dealtThere : List BookEvent),
        dealtThere.filter (fun event => event.peer = here) =
          (dealtHere.filter fun event => event.peer = there).map (.mirror here) →
        let hereBook := (ExchangeBook.empty settings).run dealtHere
        let thereBook := (ExchangeBook.empty settings.mirror).run dealtThere
        thereBook.contract here = (hereBook.contract there).mirror ∧
          ∀ side, thereBook.availableSpace here side.other = hereBook.availableSpace there side ∧
            ∀ block, (thereBook.add here side.other block).1 =
              (hereBook.add there side block).1.mapError .mirror := by
  refine ⟨?_, ?_, ?_⟩
  · intro contract history
    exact ⟨contract.outcomes_mirror history, contract.run_mirror history⟩
  · intro mySlackBase peerSlackBase history side here there
    have mirrored : there = here.mirror := by
      rw [← ExchangeContract.run_mirror, ExchangeContract.mirror_fresh]
    refine ⟨?_, ?_, ?_, ?_⟩
    · rw [mirrored, ExchangeContract.held_mirror, Side.other_other]
    · rw [mirrored, ExchangeContract.slackBase_mirror, Side.other_other]
    · rw [mirrored, ExchangeContract.availableSpace_mirror]
    · intro block
      rw [mirrored]
      exact here.outcome_mirror (.added side block)
  · intro here there settings dealtHere dealtThere sameDealings hereBook thereBook
    have mirrored : thereBook.contract here = (hereBook.contract there).mirror :=
      ExchangeBook.contract_run_mirror sameDealings
    refine ⟨mirrored, ?_⟩
    intro side
    refine ⟨?_, ?_⟩
    · rw [ExchangeBook.availableSpace, mirrored, ExchangeContract.availableSpace_mirror,
        ExchangeBook.availableSpace]
    · intro block
      rw [ExchangeBook.add_eq, ExchangeBook.add_eq, mirrored]
      exact (hereBook.contract there).outcome_mirror (.added side block)

/-- The first of two blocks is taken at once, the second under a larger base; meanwhile the
node deals with somebody else. -/
def dealtBySender (receiver other : PeerId) : List BookEvent :=
  [.added receiver .theirs (.repeating 1), .added other .mine (.repeating 9),
    .added receiver .theirs (.repeating 2), .slackBasesSet receiver 0 2,
    .added receiver .theirs (.repeating 2)]

def dealtByReceiver (sender other : PeerId) : List BookEvent :=
  [.slackBasesSet other 5 6, .added sender .mine (.repeating 1),
    .added sender .mine (.repeating 2), .slackBasesSet sender 2 0,
    .added sender .mine (.repeating 2), .removed other .mine (.repeating 9)]

theorem third_block_is_refused_at_both_ends :
    ∃ sender receiver other : PeerId,
      let settings : ExchangeSettings := { mySlackBase := 0, peerSlackBase := 1 }
      let sent := (ExchangeBook.empty settings).run (dealtBySender receiver other)
      let received := (ExchangeBook.empty settings.mirror).run (dealtByReceiver sender other)
      (dealtByReceiver sender other).filter (fun event => event.peer = sender) =
          ((dealtBySender receiver other).filter fun event => event.peer = receiver).map
            (.mirror sender) ∧
        received.contract sender = (sent.contract receiver).mirror ∧
        received.availableSpace sender .mine = sent.availableSpace receiver .theirs ∧
        (sent.add receiver .theirs (.repeating 3)).1 =
          .error { block := .repeating 3, side := .theirs, headroom := 0 } ∧
        (received.add sender .mine (.repeating 3)).1 =
          .error { block := .repeating 3, side := .mine, headroom := 0 } := by
  let sender := PeerId.ofByte 1
  let receiver := PeerId.ofByte 2
  let other := PeerId.ofByte 3
  have sameDealings :
      (dealtByReceiver sender other).filter (fun event => event.peer = sender) =
        ((dealtBySender receiver other).filter fun event => event.peer = receiver).map
          (.mirror sender) := by
    decide
  obtain ⟨_, _, books⟩ := both_ends_of_a_contract_agree
  obtain ⟨mirrored, sides⟩ :=
    books sender receiver { mySlackBase := 0, peerSlackBase := 1 } _ _ sameDealings
  obtain ⟨sameSpace, sameAnswers⟩ := sides .theirs
  have refused :
      (((ExchangeBook.empty { mySlackBase := 0, peerSlackBase := 1 }).run
          (dealtBySender receiver other)).add receiver .theirs (.repeating 3)).1 =
        .error { block := .repeating 3, side := .theirs, headroom := 0 } := by
    decide +kernel
  refine ⟨sender, receiver, other, sameDealings, mirrored, sameSpace, refused, ?_⟩
  exact (sameAnswers (.repeating 3)).trans (by rw [refused]; rfl)

end BlockCustody
