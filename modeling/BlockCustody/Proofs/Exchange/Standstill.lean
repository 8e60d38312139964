import BlockCustody.Proofs.Exchange.Refusal

/-!
Contract: when neither side of a contract takes a new block.

Owns:
- the headroom of both sides together, and the contracts in which neither has any;
- that such a contract lasts through additions and no other change;
- that a side stays open through every history that leaves a base to one of them.

Does not own: which of the sides is open, and for how many blocks.
-/

namespace BlockCustody.ExchangeContract

/-- Room is advertised on the side, and a block that is new to it is admitted. -/
def IsOpen (contract : ExchangeContract) (side : Side) : Prop :=
  0 < contract.availableSpace side ∧
    ∀ block, (contract.held side).contains block = false →
      ∃ later, contract.add side block = .ok later

/-- Neither side is open. -/
def AtStandstill (contract : ExchangeContract) : Prop :=
  ∀ side, ¬ contract.IsOpen side

/-- Some side may run ahead of the other however few blocks there are. -/
def GrantsSlack (contract : ExchangeContract) : Prop :=
  ∃ side, contract.slackBase side ≠ 0

variable {contract : ExchangeContract} {side : Side} {block : BlockId}

/-! ## Both sides together -/

/-- What one side is ahead is what the other is behind, so only slack is left of the two. -/
theorem headroom_add_headroom (contract : ExchangeContract) :
    contract.headroom .mine + contract.headroom .theirs =
      ((contract.slackBase .mine).toNat + (contract.slackBase .theirs).toNat +
        2 * (min (contract.count .mine) (contract.count .theirs) / 10) : Nat) := by
  have evenly := Nat.min_comm (contract.count .mine) (contract.count .theirs)
  rw [headroom_eq, headroom_eq, Side.other, Side.other, evenly]
  omega

theorem isOpen_iff : contract.IsOpen side ↔ 1 ≤ contract.headroom side := by
  constructor
  · rintro ⟨advertised, _⟩
    exact availableSpace_pos_iff.mp advertised
  · intro room
    exact ⟨availableSpace_pos_iff.mpr room, fun _ new => (exists_add_eq_ok_iff new).mpr room⟩

theorem atStandstill_iff_headroom :
    contract.AtStandstill ↔ contract.headroom .mine < 1 ∧ contract.headroom .theirs < 1 := by
  unfold AtStandstill
  simp only [isOpen_iff, Int.not_le]
  constructor
  · intro noneOpen
    exact ⟨noneOpen .mine, noneOpen .theirs⟩
  · rintro ⟨mineFull, theirsFull⟩ side
    cases side
    · exact mineFull
    · exact theirsFull

/-- Without headroom on either side there is no slack at all, and then a lead of one side
would be headroom of the other. -/
theorem atStandstill_iff :
    contract.AtStandstill ↔
      contract.slackBase .mine = 0 ∧ contract.slackBase .theirs = 0 ∧
        contract.count .mine = contract.count .theirs ∧ contract.count .mine < 10 := by
  rw [atStandstill_iff_headroom, headroom_eq, headroom_eq, Side.other, Side.other,
    ← UInt64.toNat_inj, ← UInt64.toNat_inj, UInt64.toNat_zero]
  omega

theorem exists_isOpen_of_not_atStandstill (moving : ¬ contract.AtStandstill) :
    ∃ side, contract.IsOpen side := by
  by_contra noneOpen
  exact moving fun side isOpen => noneOpen ⟨side, isOpen⟩

/-- A block that is new to a side is refused there exactly if the side is not open. -/
theorem exists_add_eq_error_iff (new : (contract.held side).contains block = false) :
    (∃ fault, contract.add side block = .error fault) ↔ ¬ contract.IsOpen side := by
  rw [isOpen_iff, Int.not_le]
  simp [add_eq_error_iff, new]

/-! ## At a standstill -/

theorem AtStandstill.after_added (still : contract.AtStandstill) (side : Side)
    (block : BlockId) : contract.after (.added side block) = contract := by
  rcases after_added_cases contract side block with same | ⟨_, room, _⟩
  · exact same
  · exact absurd (isOpen_iff.mpr room) (still side)

/-- A block less on one side leaves it behind the other, and any base grants it room. -/
theorem AtStandstill.after_iff (still : contract.AtStandstill) (event : ContractEvent) :
    (contract.after event).AtStandstill ↔ contract.after event = contract := by
  constructor
  · intro stillAfter
    obtain ⟨myBase, peerBase, even, few⟩ := atStandstill_iff.mp still
    obtain ⟨myBaseAfter, peerBaseAfter, evenAfter, _⟩ := atStandstill_iff.mp stillAfter
    cases event with
    | added grower block => exact still.after_added grower block
    | removed loser block =>
        rw [after] at evenAfter ⊢
        apply remove_of_absent
        by_contra notAbsent
        have held := (Bool.not_eq_false _).mp notAbsent
        have oneLess := count_remove_of_held held
        have otherKept := contract.count_remove_other loser block
        cases loser with
        | mine =>
            rw [Side.other] at otherKept
            omega
        | theirs =>
            rw [Side.other] at otherKept
            omega
    | rebased changed base =>
        have sameBase : base = contract.slackBase changed := by
          rw [after, slackBase_setSlackBase] at myBaseAfter peerBaseAfter
          cases changed
          · exact myBaseAfter.trans myBase.symm
          · exact peerBaseAfter.trans peerBase.symm
        rw [after, sameBase, setSlackBase_slackBase]
  · intro same
    rw [same]
    exact still

theorem AtStandstill.run_additions (still : contract.AtStandstill) {history : List ContractEvent}
    (additions : ∀ event ∈ history, ∃ side block, event = .added side block) :
    contract.run history = contract := by
  induction history with
  | nil => rfl
  | cons first later inductionHypothesis =>
      obtain ⟨side, block, rfl⟩ := additions first List.mem_cons_self
      have unchanged := still.after_added side block
      rw [run, List.foldl_cons, unchanged]
      exact inductionHypothesis fun event among => additions event (List.mem_cons_of_mem _ among)

/-! ## Under a base -/

theorem not_atStandstill_of_grantsSlack (grants : contract.GrantsSlack) :
    ¬ contract.AtStandstill := by
  obtain ⟨side, granted⟩ := grants
  rw [atStandstill_iff]
  rintro ⟨myBase, peerBase, _, _⟩
  cases side
  · exact granted myBase
  · exact granted peerBase

theorem slackBase_after_of_not_rebased {event : ContractEvent}
    (notRebased : ∀ base, event ≠ .rebased side base) :
    (contract.after event).slackBase side = contract.slackBase side := by
  cases event with
  | added grower block =>
      rcases after_added_cases contract grower block with same | ⟨_, _, isLater⟩
      · rw [same]
      · rw [isLater, slackBase_setHeld]
  | removed loser block => rw [after, remove, slackBase_setHeld]
  | rebased changed base =>
      have other : side ≠ changed := fun same => notRebased base (same ▸ rfl)
      rw [after, slackBase_setSlackBase, if_neg other]

theorem GrantsSlack.after (grants : contract.GrantsSlack) {event : ContractEvent}
    (leaves : ∀ side, event ≠ .rebased side 0) : (contract.after event).GrantsSlack := by
  obtain ⟨side, granted⟩ := grants
  by_cases rebases : ∃ base, event = .rebased side base
  · obtain ⟨base, rfl⟩ := rebases
    refine ⟨side, ?_⟩
    rw [ExchangeContract.after, slackBase_setSlackBase, if_pos rfl]
    rintro rfl
    exact leaves side rfl
  · refine ⟨side, ?_⟩
    rw [slackBase_after_of_not_rebased fun base isRebased => rebases ⟨base, isRebased⟩]
    exact granted

theorem GrantsSlack.run (grants : contract.GrantsSlack) {history : List ContractEvent}
    (leaves : ∀ side, .rebased side 0 ∉ history) : (contract.run history).GrantsSlack := by
  induction history generalizing contract with
  | nil => exact grants
  | cons first later inductionHypothesis =>
      have firstLeaves : ∀ side, first ≠ .rebased side 0 :=
        fun side isRebased => leaves side (isRebased ▸ List.mem_cons_self)
      exact inductionHypothesis (grants.after firstLeaves)
        fun side among => leaves side (List.mem_cons_of_mem _ among)

/-- The headroom of both sides together is their bases and twice the slack they earned, which
is never less than none. So the two sides refuse their new blocks at once exactly if neither
has a base and they have equally many blocks, fewer than ten; in any other contract a side is
open. Of such a contract additions change nothing, and whatever does change it opens a side. As
long as a side has a base, and no base is taken away, no history closes both sides. -/
theorem sides_are_both_closed_only_when_even_and_without_base (contract : ExchangeContract) :
    let evenWithoutBase :=
      contract.slackBase .mine = 0 ∧ contract.slackBase .theirs = 0 ∧
        contract.count .mine = contract.count .theirs ∧ contract.count .mine < 10
    contract.headroom .mine + contract.headroom .theirs =
        ((contract.slackBase .mine).toNat + (contract.slackBase .theirs).toNat +
          2 * (min (contract.count .mine) (contract.count .theirs) / 10) : Nat) ∧
      0 ≤ contract.headroom .mine + contract.headroom .theirs ∧
      (∀ mine theirs, (contract.held .mine).contains mine = false →
        (contract.held .theirs).contains theirs = false →
          ((∃ fault, contract.add .mine mine = .error fault) ∧
              (∃ fault, contract.add .theirs theirs = .error fault) ↔
            evenWithoutBase)) ∧
      (¬ evenWithoutBase → ∃ side, contract.IsOpen side) ∧
      (evenWithoutBase →
        (∀ history, (∀ event ∈ history, ∃ side block, event = .added side block) →
          contract.run history = contract) ∧
        ∀ event, contract.after event ≠ contract →
          ∃ side, (contract.after event).IsOpen side) ∧
      ∀ history, (∃ side, contract.slackBase side ≠ 0) → (∀ side, .rebased side 0 ∉ history) →
        ∃ side, (contract.run history).IsOpen side := by
  intro evenWithoutBase
  have together := contract.headroom_add_headroom
  refine ⟨together, ?_, ?_, ?_, ?_, ?_⟩
  · rw [together]
    exact Int.natCast_nonneg _
  · intro mine theirs mineNew theirsNew
    rw [exists_add_eq_error_iff mineNew, exists_add_eq_error_iff theirsNew, isOpen_iff,
      isOpen_iff, Int.not_le, Int.not_le, ← atStandstill_iff_headroom, atStandstill_iff]
  · intro uneven
    exact exists_isOpen_of_not_atStandstill fun still => uneven (atStandstill_iff.mp still)
  · intro even
    have still : contract.AtStandstill := atStandstill_iff.mpr even
    refine ⟨fun history additions => still.run_additions additions, ?_⟩
    intro event changes
    exact exists_isOpen_of_not_atStandstill
      fun stillAfter => changes ((still.after_iff event).mp stillAfter)
  · intro history grants leaves
    exact exists_isOpen_of_not_atStandstill
      (not_atStandstill_of_grantsSlack (GrantsSlack.run grants leaves))

/-- Equally many blocks on both sides, neither of which has a base. -/
def evenly (number : Nat) : ExchangeContract :=
  { mine := KeySet.ofList ((List.range number).map fun index => .repeating index.toUInt8)
    theirs := KeySet.ofList ((List.range number).map fun index => .repeating index.toUInt8)
    mySlackBase := 0
    peerSlackBase := 0 }

/-- A base for the peer that is lowered to one, while blocks come and go. -/
def loweredToOne : List ContractEvent :=
  [.added .theirs (.repeating 1), .added .theirs (.repeating 2), .rebased .theirs 1,
    .added .mine (.repeating 3), .removed .theirs (.repeating 1)]

theorem nine_against_nine_wait_where_ten_against_ten_go_on :
    (∃ fault, (evenly 9).add .mine (.repeating 20) = .error fault) ∧
      (∃ fault, (evenly 9).add .theirs (.repeating 30) = .error fault) ∧
      (evenly 9).run
          [.added .mine (.repeating 20), .added .theirs (.repeating 30),
            .added .mine (.repeating 1)] =
        evenly 9 ∧
      (∃ side, ((evenly 9).after (.removed .theirs (.repeating 4))).IsOpen side) ∧
      (∃ side, (evenly 10).IsOpen side) ∧
      ∃ side, ((fresh 0 2).run loweredToOne).IsOpen side := by
  obtain ⟨_, _, closed, _, still, _⟩ :=
    sides_are_both_closed_only_when_even_and_without_base (evenly 9)
  obtain ⟨_, _, _, opened, _, _⟩ :=
    sides_are_both_closed_only_when_even_and_without_base (evenly 10)
  obtain ⟨_, _, _, _, _, underBase⟩ :=
    sides_are_both_closed_only_when_even_and_without_base (fresh 0 2)
  have even :
      (evenly 9).slackBase .mine = 0 ∧ (evenly 9).slackBase .theirs = 0 ∧
        (evenly 9).count .mine = (evenly 9).count .theirs ∧ (evenly 9).count .mine < 10 := by
    decide +kernel
  obtain ⟨mineRefused, theirsRefused⟩ :=
    (closed (.repeating 20) (.repeating 30) (by decide +kernel) (by decide +kernel)).mpr even
  obtain ⟨lasts, ends⟩ := still even
  have baseLeft : ∀ side, ContractEvent.rebased side 0 ∉ loweredToOne := by
    intro side
    cases side <;> decide
  exact ⟨mineRefused, theirsRefused, lasts _ (by simp), ends _ (by decide +kernel),
    opened (by decide +kernel), underBase loweredToOne ⟨.theirs, by decide⟩ baseLeft⟩

end BlockCustody.ExchangeContract
