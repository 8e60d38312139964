import BlockCustody.Exchange.Contract
import BlockCustody.Proofs.Collections.KeySet

/-!
Contract: what happens to an exchange contract.

Owns:
- the events of a contract and runs of them;
- headroom by its side, when a block is admitted and when it is refused;
- the blocks and bases of both sides after an admission, a removal and a new base.

Does not own: what follows for whole runs, and which peer the contract is with.
-/

namespace BlockCustody

namespace Side

@[simp]
theorem other_other (side : Side) : side.other.other = side := by
  cases side <;> rfl

theorem other_ne (side : Side) : side.other ≠ side := by
  cases side <;> decide

theorem eq_or_eq_other (single side : Side) : single = side ∨ single = side.other := by
  cases single <;> cases side <;> decide

end Side

/-- What happens to a contract. -/
inductive ContractEvent where
  | added (side : Side) (block : BlockId)
  | removed (side : Side) (block : BlockId)
  | rebased (side : Side) (base : UInt64)
deriving DecidableEq

namespace ExchangeContract

/-- The contract after an event. A refused block leaves it as it is. -/
def after (contract : ExchangeContract) : ContractEvent → ExchangeContract
  | .added side block =>
      match contract.add side block with
      | .ok later => later
      | .error _ => contract
  | .removed side block => contract.remove side block
  | .rebased side base => contract.setSlackBase side base

/-- The contract after events in the order in which they happened. -/
def run (contract : ExchangeContract) (history : List ContractEvent) : ExchangeContract :=
  history.foldl after contract

/-- How many blocks a side has. -/
def count (contract : ExchangeContract) (side : Side) : Nat :=
  (contract.held side).size

variable {contract : ExchangeContract} {side : Side} {block : BlockId}

/-! ## Sides -/

@[simp]
theorem held_setHeld (contract : ExchangeContract) (changed side : Side) (blocks : KeySet BlockId) :
    (contract.setHeld changed blocks).held side =
      if side = changed then blocks else contract.held side := by
  cases changed <;> cases side <;> rfl

@[simp]
theorem slackBase_setHeld (contract : ExchangeContract) (changed side : Side)
    (blocks : KeySet BlockId) :
    (contract.setHeld changed blocks).slackBase side = contract.slackBase side := by
  cases changed <;> cases side <;> rfl

@[simp]
theorem held_setSlackBase (contract : ExchangeContract) (changed side : Side) (base : UInt64) :
    (contract.setSlackBase changed base).held side = contract.held side := by
  cases changed <;> cases side <;> rfl

@[simp]
theorem slackBase_setSlackBase (contract : ExchangeContract) (changed side : Side)
    (base : UInt64) :
    (contract.setSlackBase changed base).slackBase side =
      if side = changed then base else contract.slackBase side := by
  cases changed <;> cases side <;> rfl

theorem setHeld_held (contract : ExchangeContract) (side : Side) :
    contract.setHeld side (contract.held side) = contract := by
  cases side <;> rfl

theorem setSlackBase_slackBase (contract : ExchangeContract) (side : Side) :
    contract.setSlackBase side (contract.slackBase side) = contract := by
  cases side <;> rfl

/-- Headroom from the point of view of its side. -/
theorem headroom_eq (contract : ExchangeContract) (side : Side) :
    contract.headroom side =
      contract.count side.other - contract.count side +
        ((contract.slackBase side).toNat +
          min (contract.count side) (contract.count side.other) / 10 : Nat) := by
  have smaller :
      min contract.mine.size contract.theirs.size =
        min (contract.count side) (contract.count side.other) := by
    cases side with
    | mine => rfl
    | theirs => exact Nat.min_comm _ _
  rw [headroom, earnedSlack, smaller]
  rfl

/-- The advertised room is the headroom, as far as 64 bits without a sign hold it. -/
theorem toNat_availableSpace (contract : ExchangeContract) (side : Side) :
    (contract.availableSpace side).toNat =
      min (contract.headroom side).toNat 0xFFFFFFFFFFFFFFFF := by
  rw [availableSpace, clampSpace]
  split
  · next behind =>
      rw [UInt64.toNat_zero]
      omega
  · split
    · next notBehind fits =>
        have small : (contract.headroom side).toNat < 2 ^ 64 := by omega
        rw [Nat.toUInt64_eq, UInt64.toNat_ofNat_of_lt' small]
        omega
    · next notBehind tooLarge =>
        have largest : (0xFFFFFFFFFFFFFFFF : UInt64).toNat = 0xFFFFFFFFFFFFFFFF := rfl
        rw [largest]
        omega

/-- Room is advertised exactly where there is headroom. -/
theorem availableSpace_pos_iff : 0 < contract.availableSpace side ↔ 1 ≤ contract.headroom side := by
  rw [UInt64.lt_iff_toNat_lt, toNat_availableSpace, UInt64.toNat_zero]
  omega

theorem availableSpace_eq_zero_iff :
    contract.availableSpace side = 0 ↔ contract.headroom side < 1 := by
  rw [← Int.not_le, ← availableSpace_pos_iff, UInt64.not_lt, UInt64.le_zero_iff]

/-! ## Single events -/

/-- A block is admitted without a change, or because there is headroom. -/
theorem add_eq_ok_iff {later : ExchangeContract} :
    contract.add side block = .ok later ↔
      (contract.held side).contains block = true ∧ later = contract ∨
        (contract.held side).contains block = false ∧ 1 ≤ contract.headroom side ∧
          later = contract.setHeld side (KeySet.add (contract.held side) block) := by
  unfold add
  split
  · next present => simp [present, eq_comm]
  · next absent =>
      split
      · next full => simp [absent, full]
      · next room =>
          have enough : 1 ≤ contract.headroom side := by omega
          simp [absent, enough, eq_comm]

theorem add_of_held (held : (contract.held side).contains block = true) :
    contract.add side block = .ok contract :=
  add_eq_ok_iff.mpr (Or.inl ⟨held, rfl⟩)

/-- Only a new block is refused, and only without headroom. -/
theorem add_eq_error_iff {fault : SpaceExhausted} :
    contract.add side block = .error fault ↔
      (contract.held side).contains block = false ∧ contract.headroom side < 1 ∧
        fault = { block, side, headroom := reportedHeadroom (contract.headroom side) } := by
  unfold add
  split
  · next present => simp [present]
  · next absent =>
      split
      · next full => simp [absent, full, eq_comm]
      · next room => simp [room]

/-- A block passes if it is there already or there is headroom. -/
theorem add_passes_iff :
    (contract.add side block).map (fun _ => ()) = .ok () ↔
      (contract.held side).contains block = true ∨ 1 ≤ contract.headroom side := by
  unfold add
  split
  · next present => simp [present, Except.map]
  · next absent =>
      split
      · next full => simp [absent, Except.map, full]
      · next notFull =>
          have room : 1 ≤ contract.headroom side := by omega
          simp [Except.map, room]

theorem after_added_of_error {fault : SpaceExhausted}
    (refused : contract.add side block = .error fault) :
    contract.after (.added side block) = contract := by
  rw [after, refused]

theorem after_added_cases (contract : ExchangeContract) (side : Side) (block : BlockId) :
    contract.after (.added side block) = contract ∨
      (contract.held side).contains block = false ∧ 1 ≤ contract.headroom side ∧
        contract.after (.added side block) =
          contract.setHeld side (KeySet.add (contract.held side) block) := by
  cases outcome : contract.add side block with
  | error fault => exact Or.inl (after_added_of_error outcome)
  | ok later =>
      have isLater : contract.after (.added side block) = later := by rw [after, outcome]
      rw [isLater]
      rcases add_eq_ok_iff.mp outcome with ⟨_, same⟩ | new
      · exact Or.inl same
      · exact Or.inr new

theorem remove_of_absent (absent : (contract.held side).contains block = false) :
    contract.remove side block = contract := by
  rw [remove, KeyedMap.erase_of_absent absent]
  exact setHeld_held contract side

/-! ## Counting blocks -/

theorem count_setHeld (contract : ExchangeContract) (changed side : Side)
    (blocks : KeySet BlockId) :
    (contract.setHeld changed blocks).count side =
      if side = changed then blocks.size else contract.count side := by
  rw [count, held_setHeld]
  split <;> rfl

theorem size_add_of_absent (absent : (contract.held side).contains block = false) :
    (KeySet.add (contract.held side) block).size = contract.count side + 1 :=
  KeySet.size_add_of_new absent

theorem count_remove_le (contract : ExchangeContract) (loser side : Side) (block : BlockId) :
    (contract.remove loser block).count side ≤ contract.count side := by
  rw [remove, count_setHeld]
  split
  · next same =>
      subst same
      exact List.length_filter_le _ _
  · exact Nat.le_refl _

theorem count_remove_of_held (held : (contract.held side).contains block = true) :
    (contract.remove side block).count side + 1 = contract.count side := by
  rw [remove, count_setHeld, if_pos rfl]
  exact KeyedMap.size_erase_of_present held

theorem count_remove_other (contract : ExchangeContract) (side : Side) (block : BlockId) :
    (contract.remove side block).count side.other = contract.count side.other := by
  rw [remove, count_setHeld, if_neg side.other_ne]

theorem count_setSlackBase (contract : ExchangeContract) (changed side : Side) (base : UInt64) :
    (contract.setSlackBase changed base).count side = contract.count side := by
  rw [count, held_setSlackBase]
  rfl

end ExchangeContract

end BlockCustody
