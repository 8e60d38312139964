import BlockCustody.Proofs.Collections.KeySet
import BlockCustody.Proofs.Exchange.Contract

/-!
Contract: what is advertised, admitted and refused on a side of a contract agrees.

Owns:
- the advertised room as headroom between none and what 64 bits hold;
- that a refusal reports the headroom as it is, and leaves the contract as it was;
- what exactly an admission adds.

Does not own: how many blocks are admitted one after another.
-/

namespace BlockCustody.ExchangeContract

variable {contract : ExchangeContract} {side : Side} {block : BlockId}

/-! ## Headroom in 64 bits -/

/-- A side is behind by no more than the blocks it has. -/
theorem neg_count_le_headroom (contract : ExchangeContract) (side : Side) :
    -(contract.count side : Int) ≤ contract.headroom side := by
  rw [headroom_eq]
  omega

/-- The least number of 64 bits with a sign is further from none than any side with blocks
that can be counted is behind. -/
theorem reportedHeadroom_of_full
    (countable : contract.count side ≤ 0x8000000000000000)
    (full : contract.headroom side < 1) :
    reportedHeadroom (contract.headroom side) = contract.headroom side := by
  have notBelow := contract.neg_count_le_headroom side
  unfold reportedHeadroom
  rw [if_pos ⟨by omega, by omega⟩]

/-- The advertised room is the headroom moved to the nearest number of 64 bits. -/
theorem availableSpace_eq_clamped (contract : ExchangeContract) (side : Side) :
    ((contract.availableSpace side).toNat : Int) =
      max 0 (min (contract.headroom side) 0xFFFFFFFFFFFFFFFF) := by
  rw [toNat_availableSpace]
  omega

/-! ## Outcomes -/

/-- A new block finds its side open or is refused. -/
theorem exists_add_eq_ok_iff (new : (contract.held side).contains block = false) :
    (∃ later, contract.add side block = .ok later) ↔ 1 ≤ contract.headroom side := by
  simp [add_eq_ok_iff, new]

/-- A block that is there is admitted again without a change, whatever the headroom. A new
block is admitted exactly where room is advertised. It then joins the blocks of its side, and
nothing else changes. Where none is advertised it is refused, and the refusal names the block,
the side and the exact headroom, which is none at best and falls short by no more than the
blocks of the side; the contract is as it was. -/
theorem block_is_admitted_exactly_where_room_is_advertised
    (contract : ExchangeContract)
    (side : Side)
    (block : BlockId)
    (countable : contract.count side ≤ 0x8000000000000000) :
    let room : Int :=
      contract.count side.other - contract.count side + (contract.slackBase side).toNat +
        (min (contract.count side) (contract.count side.other) / 10 : Nat)
    ((contract.availableSpace side).toNat : Int) = max 0 (min room 0xFFFFFFFFFFFFFFFF) ∧
      ((contract.held side).contains block = true → contract.add side block = .ok contract) ∧
      ((contract.held side).contains block = false →
        ((∃ later, contract.add side block = .ok later) ↔ 0 < contract.availableSpace side) ∧
        (∀ later, contract.add side block = .ok later →
          (∀ other, (later.held side).contains other = true ↔
            block = other ∨ (contract.held side).contains other = true) ∧
          later.held side.other = contract.held side.other ∧
          ∀ either, later.slackBase either = contract.slackBase either) ∧
        (contract.availableSpace side = 0 →
          contract.add side block = .error { block, side, headroom := room } ∧
            contract.after (.added side block) = contract ∧
            room ≤ 0 ∧ -(contract.count side : Int) ≤ room)) := by
  intro room
  have isHeadroom : contract.headroom side = room := by
    rw [headroom_eq]
    omega
  refine ⟨?_, add_of_held, ?_⟩
  · rw [availableSpace_eq_clamped, isHeadroom]
  · intro new
    refine ⟨?_, ?_, ?_⟩
    · rw [exists_add_eq_ok_iff new, availableSpace_pos_iff]
    · intro later admitted
      rcases add_eq_ok_iff.mp admitted with ⟨held, _⟩ | ⟨_, _, rfl⟩
      · rw [new] at held
        cases held
      · refine ⟨?_, ?_, ?_⟩
        · intro other
          rw [held_setHeld, if_pos rfl]
          exact KeySet.contains_add
        · rw [held_setHeld, if_neg side.other_ne]
        · intro either
          exact slackBase_setHeld _ _ _ _
    · intro noneAdvertised
      have full : contract.headroom side < 1 := availableSpace_eq_zero_iff.mp noneAdvertised
      have reported := reportedHeadroom_of_full countable full
      have refused := add_eq_error_iff.mpr ⟨new, full, rfl⟩
      rw [reported, isHeadroom] at refused
      refine ⟨refused, after_added_of_error refused, ?_, ?_⟩
      · omega
      · rw [← isHeadroom]
        exact contract.neg_count_le_headroom side

/-- Three blocks stored for a peer that stores none, which may be given any number. -/
def threeAgainstNone : ExchangeContract :=
  { mine := KeySet.ofList [.repeating 1, .repeating 2, .repeating 3]
    theirs := KeyedMap.empty
    mySlackBase := 0
    peerSlackBase := 0xFFFFFFFFFFFFFFFF }

theorem fourth_block_is_refused_where_three_are_too_many :
    threeAgainstNone.count .mine ≤ 0x8000000000000000 ∧
      threeAgainstNone.add .mine (.repeating 4) =
        .error { block := .repeating 4, side := .mine, headroom := -3 } ∧
      threeAgainstNone.after (.added .mine (.repeating 4)) = threeAgainstNone ∧
      threeAgainstNone.add .mine (.repeating 2) = .ok threeAgainstNone ∧
      ((threeAgainstNone.availableSpace .theirs).toNat : Int) = 0xFFFFFFFFFFFFFFFF ∧
      ∃ later, threeAgainstNone.add .theirs (.repeating 4) = .ok later ∧
        later.held .mine = threeAgainstNone.held .mine := by
  have mine block :=
    block_is_admitted_exactly_where_room_is_advertised threeAgainstNone .mine block
      (by decide +kernel)
  obtain ⟨advertised, _, theirs⟩ :=
    block_is_admitted_exactly_where_room_is_advertised threeAgainstNone .theirs (.repeating 4)
      (by decide +kernel)
  obtain ⟨admission, admitted, _⟩ := theirs (by decide +kernel)
  obtain ⟨_, _, refusal⟩ := (mine (.repeating 4)).2.2 (by decide +kernel)
  obtain ⟨refused, unchanged, _, _⟩ := refusal (by decide +kernel)
  obtain ⟨later, isLater⟩ := admission.mpr (by decide +kernel)
  exact ⟨by decide +kernel, refused, unchanged, (mine (.repeating 2)).2.1 (by decide +kernel),
    advertised, later, isLater, (admitted later isLater).2.1⟩

end BlockCustody.ExchangeContract
