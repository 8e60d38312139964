import BlockCustody.Proofs.Collections.KeySet
import BlockCustody.Proofs.Exchange.Contract

/-!
Contract: how many blocks a side of a contract takes before it refuses one.

Owns:
- the number of blocks at which a side is full, which its own additions do not change;
- additions one after another until one is refused, and what they leave;
- how much of the room there is advertised.

Does not own: what removals and new bases do to the lead of a side.
-/

namespace BlockCustody

namespace ExchangeContract

/-- The number of blocks at which a side is full. -/
def capacity (contract : ExchangeContract) (side : Side) : Nat :=
  contract.count side.other + (contract.slackBase side).toNat + contract.count side.other / 10

/-- How many further blocks a side takes, none if it is beyond its capacity. -/
def room (contract : ExchangeContract) (side : Side) : Nat :=
  contract.capacity side - contract.count side

/-- Adds blocks to a side one after another until one is refused: how many were admitted,
and the contract they leave. -/
def addUntilRefused (side : Side) : ExchangeContract → List BlockId → Nat × ExchangeContract
  | contract, [] => (0, contract)
  | contract, block :: later =>
      match contract.add side block with
      | .error _ => (0, contract)
      | .ok next =>
          let (admitted, last) := addUntilRefused side next later
          (admitted + 1, last)

variable {contract : ExchangeContract} {side : Side} {block : BlockId} {blocks : List BlockId}

/-! ## Headroom and capacity -/

/-- Every block a side takes costs it one of headroom and earns it less than one of slack, so
that headroom lasts exactly until the side is full. -/
theorem one_le_headroom_iff :
    1 ≤ contract.headroom side ↔ contract.count side < contract.capacity side := by
  rw [headroom_eq, capacity]
  omega

/-- Slack that a side behind the other has yet to earn is no headroom. -/
theorem headroom_le (contract : ExchangeContract) (side : Side) :
    contract.headroom side ≤ contract.capacity side - contract.count side := by
  rw [headroom_eq, capacity]
  omega

theorem headroom_of_not_behind (notBehind : contract.count side.other ≤ contract.count side) :
    contract.headroom side = contract.capacity side - contract.count side := by
  rw [headroom_eq, capacity, Nat.min_eq_right notBehind]
  omega

/-! ## One block -/

theorem setHeld_setHeld (contract : ExchangeContract) (side : Side)
    (blocks later : KeySet BlockId) :
    (contract.setHeld side blocks).setHeld side later = contract.setHeld side later := by
  cases side <;> rfl

/-- What a side holds does not count for its capacity. -/
theorem capacity_setHeld (contract : ExchangeContract) (side : Side) (blocks : KeySet BlockId) :
    (contract.setHeld side blocks).capacity side = contract.capacity side := by
  rw [capacity, capacity, count_setHeld, slackBase_setHeld, if_neg side.other_ne]

theorem add_of_room
    (new : (contract.held side).contains block = false)
    (notFull : contract.count side < contract.capacity side) :
    contract.add side block =
      .ok (contract.setHeld side (KeySet.add (contract.held side) block)) :=
  add_eq_ok_iff.mpr (Or.inr ⟨new, one_le_headroom_iff.mpr notFull, rfl⟩)

theorem add_of_full
    (new : (contract.held side).contains block = false)
    (full : contract.capacity side ≤ contract.count side) :
    contract.add side block =
      .error { block, side, headroom := reportedHeadroom (contract.headroom side) } := by
  have noHeadroom : contract.headroom side < 1 := by
    rw [← Int.not_le, one_le_headroom_iff]
    exact Nat.not_lt.mpr full
  exact add_eq_error_iff.mpr ⟨new, noHeadroom, rfl⟩

/-! ## Blocks one after another -/

/-- Of distinct new blocks, whichever they are, as many are admitted as there is room for,
and they join those the side had. -/
theorem addUntilRefused_of_new
    (distinct : blocks.Nodup)
    (new : ∀ block ∈ blocks, (contract.held side).contains block = false) :
    addUntilRefused side contract blocks =
      (min blocks.length (contract.room side),
        contract.setHeld side
          ((blocks.take (contract.room side)).foldl KeySet.add (contract.held side))) := by
  induction blocks generalizing contract with
  | nil => simp [addUntilRefused, setHeld_held]
  | cons first others inductionHypothesis =>
      have firstNew := new first List.mem_cons_self
      rw [addUntilRefused]
      by_cases full : contract.capacity side ≤ contract.count side
      · have noRoom : contract.room side = 0 := Nat.sub_eq_zero_of_le full
        rw [add_of_full firstNew full, noRoom, List.take_zero, List.foldl_nil, setHeld_held,
          Nat.min_zero]
      · have notFull := Nat.not_le.mp full
        let next := contract.setHeld side (KeySet.add (contract.held side) first)
        have heldNext : next.held side = KeySet.add (contract.held side) first := by
          rw [held_setHeld, if_pos rfl]
        have othersNew : ∀ block ∈ others, (next.held side).contains block = false := by
          rw [heldNext]
          exact KeySet.others_new_after_first distinct new
        have oneLess : contract.room side = next.room side + 1 := by
          rw [room, room, capacity_setHeld, count_setHeld, if_pos rfl, size_add_of_absent firstNew]
          omega
        have rest := inductionHypothesis distinct.of_cons othersNew
        rw [add_of_room firstNew notFull, oneLess]
        simp only [rest, heldNext, setHeld_setHeld, next, List.length_cons, List.take_succ_cons,
          List.foldl_cons, Nat.add_min_add_right]

theorem count_addUntilRefused_of_new
    (distinct : blocks.Nodup)
    (new : ∀ block ∈ blocks, (contract.held side).contains block = false) :
    (addUntilRefused side contract blocks).2.count side =
      contract.count side + min blocks.length (contract.room side) := by
  have takenDistinct : (blocks.take (contract.room side)).Nodup :=
    distinct.sublist (List.take_sublist _ _)
  have takenNew : ∀ block ∈ blocks.take (contract.room side),
      (contract.held side).contains block = false :=
    fun block among => new block (List.mem_of_mem_take among)
  rw [addUntilRefused_of_new distinct new, count_setHeld, if_pos rfl,
    KeySet.size_foldl_add_of_new takenDistinct takenNew, List.length_take, Nat.min_comm]
  rfl

theorem capacity_addUntilRefused_of_new
    (distinct : blocks.Nodup)
    (new : ∀ block ∈ blocks, (contract.held side).contains block = false) :
    (addUntilRefused side contract blocks).2.capacity side = contract.capacity side := by
  rw [addUntilRefused_of_new distinct new, capacity_setHeld]

/-- As many blocks as there is room for fill the side. -/
theorem full_of_room_le_length
    (distinct : blocks.Nodup)
    (new : ∀ block ∈ blocks, (contract.held side).contains block = false)
    (enough : contract.room side ≤ blocks.length) :
    (addUntilRefused side contract blocks).2.count side =
      max (contract.count side) (contract.capacity side) := by
  rw [count_addUntilRefused_of_new distinct new, Nat.min_eq_right enough, room]
  omega

/-! ## Advertised room -/

theorem toNat_availableSpace_le_room (contract : ExchangeContract) (side : Side) :
    (contract.availableSpace side).toNat ≤ contract.room side := by
  have bound := contract.headroom_le side
  rw [toNat_availableSpace, room]
  omega

theorem toNat_availableSpace_of_not_behind
    (notBehind : contract.count side.other ≤ contract.count side) :
    (contract.availableSpace side).toNat = min (contract.room side) 0xFFFFFFFFFFFFFFFF := by
  rw [toNat_availableSpace, headroom_of_not_behind notBehind, room]
  omega

/-- A side is full when it has the blocks of the other side, its base, and one more for every
ten blocks of the other side. Of distinct new blocks added one after another, whichever they
are, it takes as many as are missing to that, and then has as many as it is full with, or
what it had if that is more; nothing else is changed, and any further new block is refused.
The advertised room is never more than is missing, so that as many blocks are all taken. It
is just what is missing, as far as 64 bits hold it, unless the side has fewer blocks than the
other. -/
theorem side_takes_new_blocks_until_it_is_full (contract : ExchangeContract) (side : Side) :
    let full :=
      contract.count side.other + (contract.slackBase side).toNat +
        contract.count side.other / 10
    let missing := full - contract.count side
    (∀ blocks : List BlockId, blocks.Nodup →
      (∀ block ∈ blocks, (contract.held side).contains block = false) →
        let outcome := addUntilRefused side contract blocks
        outcome.1 = min blocks.length missing ∧
          outcome.2.count side = contract.count side + outcome.1 ∧
          (∀ block, (outcome.2.held side).contains block = true ↔
            block ∈ blocks.take missing ∨ (contract.held side).contains block = true) ∧
          outcome.2.held side.other = contract.held side.other ∧
          (∀ either, outcome.2.slackBase either = contract.slackBase either) ∧
          (missing ≤ blocks.length →
            outcome.2.count side = max (contract.count side) full ∧
              ∀ block, (outcome.2.held side).contains block = false →
                ∃ fault, outcome.2.add side block = .error fault) ∧
          (blocks.length ≤ (contract.availableSpace side).toNat → outcome.1 = blocks.length)) ∧
      (contract.availableSpace side).toNat ≤ missing ∧
      (contract.count side.other ≤ contract.count side →
        (contract.availableSpace side).toNat = min missing 0xFFFFFFFFFFFFFFFF) := by
  intro full missing
  refine ⟨?_, toNat_availableSpace_le_room contract side, toNat_availableSpace_of_not_behind⟩
  intro blocks distinct new outcome
  have isOutcome := addUntilRefused_of_new distinct new
  have admitted : outcome.1 = min blocks.length missing := congrArg Prod.fst isOutcome
  have left : outcome.2 = _ := congrArg Prod.snd isOutcome
  refine ⟨admitted, ?_, ?_, ?_, ?_, ?_, ?_⟩
  · rw [admitted]
    exact count_addUntilRefused_of_new distinct new
  · intro block
    rw [left, held_setHeld, if_pos rfl]
    exact KeySet.contains_foldl_add
  · rw [left, held_setHeld, if_neg side.other_ne]
  · intro either
    rw [left, slackBase_setHeld]
  · intro enough
    have isFull := full_of_room_le_length distinct new enough
    refine ⟨isFull, ?_⟩
    intro block stillNew
    refine ⟨_, add_of_full stillNew ?_⟩
    rw [capacity_addUntilRefused_of_new distinct new, isFull]
    exact Nat.le_max_right _ _
  · intro advertised
    have fits := Nat.le_trans advertised (toNat_availableSpace_le_room contract side)
    rw [admitted]
    exact Nat.min_eq_left fits

/-- Ten blocks that the peer stores, and two that are stored for it. -/
def tenAgainstTwo : ExchangeContract :=
  { mine := KeySet.ofList ((List.range 2).map fun number => .repeating number.toUInt8)
    theirs := KeySet.ofList ((List.range 10).map fun number => .repeating number.toUInt8)
    mySlackBase := 1
    peerSlackBase := 0 }

theorem side_with_two_blocks_advertises_nine_and_takes_ten :
    let blocks := (List.range' 20 12).map fun number => ContentId.repeating number.toUInt8
    let outcome := addUntilRefused .mine tenAgainstTwo blocks
    outcome.1 = 10 ∧
      outcome.2.count .mine = 12 ∧
      (∃ fault, outcome.2.add .mine (.repeating 40) = .error fault) ∧
      (tenAgainstTwo.availableSpace .mine).toNat = 9 ∧
      (addUntilRefused .mine tenAgainstTwo (blocks.take 9)).1 = 9 ∧
      (tenAgainstTwo.availableSpace .theirs).toNat = 0 := by
  intro blocks outcome
  have distinct : blocks.Nodup := by decide +kernel
  have new : ∀ block ∈ blocks, (tenAgainstTwo.held .mine).contains block = false := by
    decide +kernel
  obtain ⟨taken, _, _⟩ := side_takes_new_blocks_until_it_is_full tenAgainstTwo .mine
  obtain ⟨_, _, advertised⟩ := side_takes_new_blocks_until_it_is_full tenAgainstTwo .theirs
  obtain ⟨admitted, _, members, _, _, filled, _⟩ := taken blocks distinct new
  obtain ⟨counted, refused⟩ := filled (by decide +kernel)
  have stillNew : (outcome.2.held .mine).contains (.repeating 40) = false := by
    rw [← Bool.not_eq_true, members]
    decide +kernel
  have nine : (tenAgainstTwo.availableSpace .mine).toNat = 9 := by decide +kernel
  obtain ⟨_, _, _, _, _, _, allTaken⟩ := taken (blocks.take 9)
    (distinct.sublist (List.take_sublist _ _))
    fun block among => new block (List.mem_of_mem_take among)
  refine ⟨admitted.trans (by decide +kernel), counted.trans (by decide +kernel),
    refused _ stillNew, nine, ?_, ?_⟩
  · exact (allTaken (nine ▸ List.length_take_le 9 blocks)).trans (by decide +kernel)
  · exact (advertised (by decide +kernel)).trans (by decide +kernel)

end ExchangeContract

end BlockCustody
