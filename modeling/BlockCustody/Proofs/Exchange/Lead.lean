import BlockCustody.Proofs.Exchange.Contract

/-!
Contract: how far one side of a contract gets ahead of the other.

Owns:
- the bound on the lead of a side, and the events that take away what it rests on;
- that every admission keeps to the bound, and every run that spares the side.

Does not own: how many blocks are admitted before the bound is reached.
-/

namespace BlockCustody

namespace ExchangeContract

/-- A side is ahead of the other by no more than its slack. -/
def WithinSlack (contract : ExchangeContract) (side : Side) : Prop :=
  contract.count side ≤
    contract.count side.other + (contract.slackBase side).toNat +
      min (contract.count side) (contract.count side.other) / 10

/-- The event takes away what a side's lead rests on: a block of the other side, or
part of the side's base. -/
def Squeezes (contract : ExchangeContract) (side : Side) : ContractEvent → Prop
  | .added _ _ => False
  | .removed loser block => loser = side.other ∧ (contract.held loser).contains block = true
  | .rebased changed base => changed = side ∧ base < contract.slackBase side

instance (contract : ExchangeContract) (side : Side) :
    (event : ContractEvent) → Decidable (contract.Squeezes side event)
  | .added _ _ => inferInstanceAs (Decidable False)
  | .removed _ _ => inferInstanceAs (Decidable (_ ∧ _))
  | .rebased _ _ => inferInstanceAs (Decidable (_ ∧ _))

/-- No event of a run squeezes the side. -/
def Spares (side : Side) : ExchangeContract → List ContractEvent → Prop
  | _, [] => True
  | contract, event :: later =>
      ¬ contract.Squeezes side event ∧ Spares side (contract.after event) later

instance decidableSpares (side : Side) :
    (contract : ExchangeContract) → (history : List ContractEvent) →
      Decidable (Spares side contract history)
  | _, [] => inferInstanceAs (Decidable True)
  | contract, event :: later =>
      have := decidableSpares side (contract.after event) later
      inferInstanceAs (Decidable (_ ∧ _))

variable {contract : ExchangeContract} {side : Side} {block : BlockId}

/-! ## Single events -/

theorem fresh_withinSlack (mySlackBase peerSlackBase : UInt64) (side : Side) :
    (fresh mySlackBase peerSlackBase).WithinSlack side := by
  have noBlocks : (fresh mySlackBase peerSlackBase).count side = 0 := by
    cases side <;> rfl
  rw [WithinSlack, noBlocks]
  exact Nat.zero_le _

/-- A lead lasts while the side does not grow, the other does not shrink, and the base
is not lowered: where the slack shrinks with the side itself, the side is not ahead. -/
theorem WithinSlack.mono
    {earlier later : ExchangeContract}
    (within : earlier.WithinSlack side)
    (ownCount : later.count side ≤ earlier.count side)
    (otherCount : earlier.count side.other ≤ later.count side.other)
    (base : earlier.slackBase side ≤ later.slackBase side) :
    later.WithinSlack side := by
  have baseNumber := UInt64.le_iff_toNat_le.mp base
  simp only [WithinSlack] at within ⊢
  omega

/-- The test for headroom is the bound for one block more. -/
theorem withinSlack_of_headroom
    (absent : (contract.held side).contains block = false)
    (room : 1 ≤ contract.headroom side) :
    (contract.setHeld side (KeySet.add (contract.held side) block)).WithinSlack side := by
  rw [headroom_eq] at room
  simp only [WithinSlack, count_setHeld, slackBase_setHeld, if_true, if_neg side.other_ne,
    size_add_of_absent absent]
  omega

theorem withinSlack_of_add
    {later : ExchangeContract}
    (absent : (contract.held side).contains block = false)
    (admitted : contract.add side block = .ok later) :
    later.WithinSlack side := by
  rcases add_eq_ok_iff.mp admitted with ⟨present, _⟩ | ⟨_, room, rfl⟩
  · rw [absent] at present
    cases present
  · exact withinSlack_of_headroom absent room

/-- An event that does not squeeze a side leaves it within its slack. -/
theorem WithinSlack.after
    (within : contract.WithinSlack side)
    {event : ContractEvent}
    (spared : ¬ contract.Squeezes side event) :
    (contract.after event).WithinSlack side := by
  cases event with
  | added grower block =>
      rcases after_added_cases contract grower block with same | ⟨absent, room, isLater⟩
      · rwa [same]
      · rw [isLater]
        rcases grower.eq_or_eq_other side with rfl | rfl
        · exact withinSlack_of_headroom absent room
        · have grown := size_add_of_absent absent
          apply within.mono
          · simp [count_setHeld, side.other_ne.symm]
          · simp [count_setHeld, grown]
          · simp
  | removed loser block =>
      rw [ExchangeContract.after]
      rcases loser.eq_or_eq_other side with rfl | rfl
      · apply within.mono
        · exact count_remove_le contract loser loser block
        · simp [remove, count_setHeld, loser.other_ne]
        · simp [remove]
      · have absent : (contract.held side.other).contains block = false :=
          Bool.eq_false_iff.mpr fun present => spared ⟨rfl, present⟩
        rwa [remove_of_absent absent]
  | rebased changed base =>
      rw [ExchangeContract.after]
      apply within.mono
      · rw [count_setSlackBase]
      · rw [count_setSlackBase]
      · rw [slackBase_setSlackBase]
        split
        · next same => exact UInt64.not_lt.mp fun lowered => spared ⟨same.symm, same ▸ lowered⟩
        · exact UInt64.le_refl _

/-! ## Runs -/

/-- A run that spares a side leaves it within its slack at every moment. -/
theorem WithinSlack.run
    (within : contract.WithinSlack side)
    {earlier later : List ContractEvent}
    (spared : Spares side contract (earlier ++ later)) :
    (contract.run earlier).WithinSlack side := by
  induction earlier generalizing contract with
  | nil => exact within
  | cons event others inductionHypothesis =>
      exact inductionHypothesis (within.after spared.1) spared.2

/-- A contract starts with no blocks. Whatever happened to it, whoever has just got a
new block admitted is ahead by no more than its slack. A side that loses nothing its lead
rests on, neither a block of the other side nor part of its base, is never further ahead;
and no other event takes a side out of the bound. -/
theorem side_leads_by_no_more_than_its_slack
    (mySlackBase peerSlackBase : UInt64)
    (side : Side) :
    (∀ history block later,
      (((fresh mySlackBase peerSlackBase).run history).held side).contains block = false →
      ((fresh mySlackBase peerSlackBase).run history).add side block = .ok later →
        later.WithinSlack side) ∧
      (∀ earlier later, Spares side (fresh mySlackBase peerSlackBase) (earlier ++ later) →
        ((fresh mySlackBase peerSlackBase).run earlier).WithinSlack side) ∧
      ∀ (contract : ExchangeContract) event,
        contract.WithinSlack side → ¬ contract.Squeezes side event →
          (contract.after event).WithinSlack side := by
  refine ⟨?_, ?_, ?_⟩
  · intro history block later isNew admitted
    exact withinSlack_of_add isNew admitted
  · intro earlier later spared
    exact (fresh_withinSlack mySlackBase peerSlackBase side).run spared
  · intro contract event within spared
    exact within.after spared

/-- Ten blocks on either side, then one fewer of `mine`. -/
def tenForTen : List ContractEvent :=
  ((List.range 10).flatMap fun number =>
      [.added .mine (.repeating number.toUInt8), .added .theirs (.repeating number.toUInt8)]) ++
    [.removed .mine (.repeating 3)]

theorem admission_after_ten_for_ten_keeps_to_slack :
    ∃ later : ExchangeContract,
      ((fresh 1 0).run tenForTen).add .mine (.repeating 20) = .ok later ∧
        later.WithinSlack .mine ∧
        ((fresh 1 0).run tenForTen).WithinSlack .mine ∧
        (((fresh 1 0).run tenForTen).after (.rebased .theirs 7)).WithinSlack .mine := by
  obtain ⟨admissions, moments, events⟩ := side_leads_by_no_more_than_its_slack 1 0 .mine
  have isNew :
      (((fresh 1 0).run tenForTen).held .mine).contains (.repeating 20) = false := by
    decide +kernel
  have room : 1 ≤ ((fresh 1 0).run tenForTen).headroom .mine := by decide +kernel
  have admitted := add_eq_ok_iff.mpr (Or.inr ⟨isNew, room, rfl⟩)
  have within : ((fresh 1 0).run tenForTen).WithinSlack .mine :=
    moments tenForTen [] (by decide +kernel)
  exact ⟨_, admitted, admissions tenForTen _ _ isNew admitted, within,
    events _ _ within (by decide +kernel)⟩

end ExchangeContract

end BlockCustody
