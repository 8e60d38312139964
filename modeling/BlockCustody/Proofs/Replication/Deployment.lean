import BlockCustody.Proofs.Replication.Knowledge

/-!
Contract: how many further holders each shard needs, and what changes that.

Owns:
- that every tracker, however it came about, has the targets it was given;
- the views of a tracker in terms of the holders its shards need;
- that registering lowers no need, that holders one after another bring a need down to none,
  and what the loss of a holder adds.

Does not own: which priority and which holders a shard has after a history.
-/

namespace BlockCustody

theorem Priority.rank_le_rank_max (left right : Priority) : left.rank ≤ (left.max right).rank := by
  unfold max
  split
  · next below => exact Nat.le_of_lt below
  · exact Nat.le_refl _

theorem ReplicaTargets.target_mono
    {targets : ReplicaTargets}
    (monotone : targets.Monotone)
    {lower higher : Priority}
    (notAbove : lower.rank ≤ higher.rank) :
    targets.target lower ≤ targets.target higher := by
  obtain ⟨laxToNormal, normalToCritical⟩ := monotone
  have laxToCritical := UInt64.le_trans laxToNormal normalToCritical
  rw [UInt64.le_iff_toNat_le] at laxToNormal normalToCritical laxToCritical
  cases lower <;> cases higher <;> simp_all [target, Priority.rank]

namespace ReplicaEntry

variable {entry : ReplicaEntry} {peer : PeerId}

theorem size_withHolder_of_new (new : entry.holders.contains peer = false) :
    (entry.withHolder peer).holders.size = entry.holders.size + 1 :=
  KeySet.size_add_of_new new

theorem withHolder_of_holder (holder : entry.holders.contains peer = true) :
    entry.withHolder peer = entry := by
  have sameHolders : KeySet.add entry.holders peer = entry.holders :=
    KeySet.add_of_contains holder
  rw [withHolder, sameHolders]

theorem size_withoutHolder_of_holder (holder : entry.holders.contains peer = true) :
    (entry.withoutHolder peer).holders.size + 1 = entry.holders.size :=
  KeyedMap.size_erase_of_present holder

end ReplicaEntry

namespace ReplicationTracker

variable {tracker : ReplicationTracker} {shard : ShardId} {peer : PeerId} {needed : Nat}

/-- Makes peers holders of a shard one after another, as long as none is refused. -/
def addHolders (tracker : ReplicationTracker) (shard : ShardId) (peers : List PeerId) :
    Except TrackerFault ReplicationTracker :=
  peers.foldlM (fun tracker peer => tracker.addHolder shard peer) tracker

/-! ## Targets -/

/-- A tracker starts without shards or is restored from bytes, where its targets are accepted;
then things happen to it. -/
inductive Arises (targets : ReplicaTargets) : ReplicationTracker → Prop where
  | started {tracker : ReplicationTracker} (accepted : start targets = .ok tracker) :
      Arises targets tracker
  | restored {bytes : Bytes} {tracker : ReplicationTracker}
      (accepted : ofSnapshot targets bytes = .ok tracker) : Arises targets tracker
  | after {tracker : ReplicationTracker} (arises : Arises targets tracker)
      (event : TrackerEvent) : Arises targets (tracker.after event)

theorem targets_of_start {targets : ReplicaTargets} (accepted : start targets = .ok tracker) :
    tracker.targets = targets := by
  unfold start at accepted
  split at accepted
  · cases accepted
    rfl
  · cases accepted

theorem targets_of_ofSnapshot {targets : ReplicaTargets} {bytes : Bytes}
    (accepted : ofSnapshot targets bytes = .ok tracker) : tracker.targets = targets := by
  unfold ofSnapshot at accepted
  split at accepted
  · cases accepted
  · split at accepted
    · cases accepted
    · next started =>
        have given := targets_of_start started
        cases accepted
        exact given

theorem Arises.targets_eq {targets : ReplicaTargets} (arises : Arises targets tracker) :
    tracker.targets = targets := by
  induction arises with
  | started accepted => exact targets_of_start accepted
  | restored accepted => exact targets_of_ofSnapshot accepted
  | after _ event inductionHypothesis => exact (targets_after _ event).trans inductionHypothesis

theorem Arises.run {targets : ReplicaTargets} (arises : Arises targets tracker)
    (history : List TrackerEvent) : Arises targets (tracker.run history) := by
  induction history generalizing tracker with
  | nil => exact arises
  | cons event later inductionHypothesis => exact inductionHypothesis (arises.after event)

/-! ## Views -/

theorem requiredPeers_eq_ok_iff :
    tracker.requiredPeers shard = .ok needed ↔
      ∃ entry, tracker.entryOf? shard = some entry ∧ tracker.shortfall entry = needed := by
  simp only [← entry_eq_ok_iff, requiredPeers]
  cases tracker.entry shard <;> simp

theorem mem_select_iff {keep : ReplicaEntry → Bool} :
    shard ∈ tracker.select keep ↔
      ∃ entry, tracker.entryOf? shard = some entry ∧ keep entry = true := by
  rw [select, KeyedMap.mem_keys_iff, KeyedMap.contains_eq_true_iff]
  simp only [KeyedMap.find?_filter_eq_some_iff, entryOf?]

theorem mem_needingPeers_iff :
    shard ∈ tracker.needingPeers ↔
      ∃ needed, tracker.requiredPeers shard = .ok needed ∧ 0 < needed := by
  simp [needingPeers, mem_select_iff, requiredPeers_eq_ok_iff]

theorem mem_fullyDeployed_iff :
    shard ∈ tracker.fullyDeployed ↔ tracker.requiredPeers shard = .ok 0 := by
  simp [fullyDeployed, mem_select_iff, requiredPeers_eq_ok_iff]

theorem knows_iff_requiredPeers :
    tracker.Knows shard ↔ ∃ needed, tracker.requiredPeers shard = .ok needed := by
  simp [Knows, entry_eq_ok_iff, requiredPeers_eq_ok_iff]

theorem knows_iff_needing_or_fullyDeployed :
    tracker.Knows shard ↔ shard ∈ tracker.needingPeers ∨ shard ∈ tracker.fullyDeployed := by
  rw [knows_iff_requiredPeers, mem_needingPeers_iff, mem_fullyDeployed_iff]
  constructor
  · rintro ⟨needed, required⟩
    cases needed with
    | zero => exact Or.inr required
    | succ fewer => exact Or.inl ⟨fewer + 1, required, Nat.succ_pos fewer⟩
  · rintro (⟨needed, required, _⟩ | nothingRequired)
    · exact ⟨needed, required⟩
    · exact ⟨0, nothingRequired⟩

theorem not_fullyDeployed_of_needing (needing : shard ∈ tracker.needingPeers) :
    shard ∉ tracker.fullyDeployed := by
  obtain ⟨needed, required, positive⟩ := mem_needingPeers_iff.mp needing
  rw [mem_fullyDeployed_iff, required, Except.ok.injEq]
  exact Nat.ne_of_gt positive

theorem mem_partiallyDeployed_iff :
    shard ∈ tracker.partiallyDeployed ↔
      shard ∈ tracker.needingPeers ∧ ∃ peer, tracker.Holds shard peer := by
  rw [partiallyDeployed, needingPeers, mem_select_iff, mem_select_iff]
  simp only [holds_iff, Bool.and_eq_true, Bool.not_eq_true', KeyedMap.isEmpty_eq_false_iff]
  constructor
  · rintro ⟨entry, found, ⟨peer, held⟩, short⟩
    exact ⟨⟨entry, found, short⟩, peer, entry, found, held⟩
  · rintro ⟨⟨entry, found, short⟩, peer, holder, foundHolder, held⟩
    rw [found] at foundHolder
    cases foundHolder
    exact ⟨entry, found, ⟨peer, held⟩, short⟩

theorem mem_needingPeersExcluding_iff :
    shard ∈ tracker.needingPeersExcluding peer ↔
      shard ∈ tracker.needingPeers ∧ ¬ tracker.Holds shard peer := by
  rw [needingPeersExcluding, needingPeers, mem_select_iff, mem_select_iff]
  simp only [holds_iff, Bool.and_eq_true, Bool.not_eq_true', not_exists, not_and]
  constructor
  · rintro ⟨entry, found, short, notHeld⟩
    refine ⟨⟨entry, found, short⟩, ?_⟩
    intro holder foundHolder
    rw [found] at foundHolder
    cases foundHolder
    rw [notHeld]
    exact Bool.false_ne_true
  · rintro ⟨⟨entry, found, short⟩, noHolder⟩
    exact ⟨entry, found, short, Bool.eq_false_iff.mpr (noHolder entry found)⟩

/-- Every entry counts for one view or the other. -/
theorem size_eq_needing_add_fullyDeployed (tracker : ReplicationTracker) :
    tracker.size = tracker.needingPeers.length + tracker.fullyDeployed.length := by
  have parts := tracker.shards.entries.length_eq_length_filter_add fun entry =>
    decide (0 < tracker.shortfall entry.2)
  have metBy : ∀ entry : ShardId × ReplicaEntry,
      (!decide (0 < tracker.shortfall entry.2)) = decide (tracker.shortfall entry.2 = 0) := by
    intro entry
    simp [Nat.pos_iff_ne_zero]
  simp only [metBy] at parts
  rw [needingPeers, fullyDeployed, select, select, KeyedMap.length_keys, KeyedMap.length_keys]
  exact parts

theorem length_partiallyDeployed_le (tracker : ReplicationTracker) :
    tracker.partiallyDeployed.length ≤ tracker.needingPeers.length := by
  rw [partiallyDeployed, needingPeers, select, select, KeyedMap.length_keys, KeyedMap.length_keys]
  apply List.Sublist.length_le
  apply List.monotone_filter_right
  intro entry heldAndShort
  exact (Bool.and_eq_true_iff.mp heldAndShort).2

theorem Holds.knows (holds : tracker.Holds shard peer) : tracker.Knows shard := by
  obtain ⟨entry, isEntry, _⟩ := holds
  exact ⟨entry, isEntry⟩

/-! ## Single events -/

/-- A grant adds the peer to the holders that the shard has. -/
theorem entryAfter_of_grants {event : TrackerEvent} {entry : ReplicaEntry}
    (grants : tracker.Grants event shard peer) (found : tracker.entryOf? shard = some entry) :
    event.entryAfter shard (tracker.entryOf? shard) = some (entry.withHolder peer) := by
  cases event with
  | holderAdded target holder =>
      obtain ⟨rfl, rfl, _⟩ := grants
      rw [found, TrackerEvent.entryAfter, if_pos rfl, Option.map_some]
  | holderAdopted target holder =>
      obtain ⟨rfl, rfl⟩ := grants
      rw [found, TrackerEvent.entryAfter, if_pos rfl, Option.getD_some]
  | registered target priority => exact grants.elim
  | holderRemoved target gone => exact grants.elim
  | peerDropped gone => exact grants.elim

/-- A grant for one shard leaves the others alone. -/
theorem entryAfter_of_grants_of_ne {event : TrackerEvent} {other : ShardId}
    (grants : tracker.Grants event shard peer) (apart : shard ≠ other)
    (before? : Option ReplicaEntry) : event.entryAfter other before? = before? := by
  cases event with
  | holderAdded target holder =>
      obtain ⟨rfl, _, _⟩ := grants
      rw [TrackerEvent.entryAfter, if_neg apart]
  | holderAdopted target holder =>
      obtain ⟨rfl, _⟩ := grants
      rw [TrackerEvent.entryAfter, if_neg apart]
  | registered target priority => exact grants.elim
  | holderRemoved target gone => exact grants.elim
  | peerDropped gone => exact grants.elim

theorem entryAfter_of_withdraws {event : TrackerEvent} {entry : ReplicaEntry}
    (withdraws : event.Withdraws shard peer) (found : tracker.entryOf? shard = some entry) :
    event.entryAfter shard (tracker.entryOf? shard) = some (entry.withoutHolder peer) := by
  cases event with
  | holderRemoved target gone =>
      obtain ⟨rfl, rfl⟩ := withdraws
      rw [found, TrackerEvent.entryAfter, if_pos rfl, Option.map_some]
  | peerDropped gone =>
      obtain rfl := withdraws
      rw [found, TrackerEvent.entryAfter, Option.map_some]
  | registered target priority => exact withdraws.elim
  | holderAdded target holder => exact withdraws.elim
  | holderAdopted target holder => exact withdraws.elim

/-- After an event a shard needs what its new entry is short of the targets. -/
theorem requiredPeers_after {event : TrackerEvent} {entry : ReplicaEntry}
    (found : event.entryAfter shard (tracker.entryOf? shard) = some entry) :
    (tracker.after event).requiredPeers shard = .ok (tracker.shortfall entry) := by
  rw [requiredPeers_eq_ok_iff, entryOf?_after]
  refine ⟨entry, found, ?_⟩
  rw [shortfall, targets_after]
  rfl

theorem changeHolders_of_knows (known : tracker.Knows shard)
    (change : KeySet PeerId → KeySet PeerId) :
    tracker.changeHolders shard change =
      .ok (tracker.afterAttempt (tracker.changeHolders shard change)) := by
  cases attempt : tracker.changeHolders shard change with
  | error fault => exact absurd known (changeHolders_eq_error_iff.mp attempt).1
  | ok later => rfl

theorem addHolder_of_knows (known : tracker.Knows shard) (peer : PeerId) :
    tracker.addHolder shard peer = .ok (tracker.after (.holderAdded shard peer)) :=
  changeHolders_of_knows known _

theorem removeHolder_of_knows (known : tracker.Knows shard) (peer : PeerId) :
    tracker.removeHolder shard peer = .ok (tracker.after (.holderRemoved shard peer)) :=
  changeHolders_of_knows known _

/-- Registering a shard, this one or another, leaves no smaller need. -/
theorem requiredPeers_register (required : tracker.requiredPeers shard = .ok needed)
    (registered : ShardId) (priority : Priority) :
    ∃ more, (tracker.register registered priority).requiredPeers shard = .ok more ∧
      needed ≤ more := by
  obtain ⟨entry, found, rfl⟩ := requiredPeers_eq_ok_iff.mp required
  have foundAfter :
      (TrackerEvent.registered registered priority).entryAfter shard (tracker.entryOf? shard) =
        some (if registered = shard then entry.raise priority else entry) := by
    rw [found, TrackerEvent.entryAfter, ← apply_ite some]
    rfl
  refine ⟨_, requiredPeers_after foundAfter, ?_⟩
  split
  · have noLowerTarget :
        tracker.targets.target entry.priority ≤
          tracker.targets.target (entry.priority.max priority) :=
      ReplicaTargets.target_mono tracker.monotone (Priority.rank_le_rank_max _ priority)
    exact Nat.sub_le_sub_right noLowerTarget _
  · exact Nat.le_refl _

theorem mem_needingPeers_register (needing : shard ∈ tracker.needingPeers)
    (registered : ShardId) (priority : Priority) :
    shard ∈ (tracker.register registered priority).needingPeers := by
  obtain ⟨needed, required, positive⟩ := mem_needingPeers_iff.mp needing
  obtain ⟨more, requiredMore, noLess⟩ := requiredPeers_register required registered priority
  exact mem_needingPeers_iff.mpr ⟨more, requiredMore, Nat.lt_of_lt_of_le positive noLess⟩

/-- A new holder brings the need down by one, if there is one, and is all that is new. -/
theorem addHolder_of_new (required : tracker.requiredPeers shard = .ok needed)
    (new : ¬ tracker.Holds shard peer) :
    ∃ later, tracker.addHolder shard peer = .ok later ∧
      later.requiredPeers shard = .ok (needed - 1) ∧
      ∀ other, later.Holds shard other ↔ peer = other ∨ tracker.Holds shard other := by
  obtain ⟨entry, found, rfl⟩ := requiredPeers_eq_ok_iff.mp required
  have known : tracker.Knows shard := knows_iff_requiredPeers.mpr ⟨_, required⟩
  have notHolder : entry.holders.contains peer = false :=
    Bool.eq_false_iff.mpr fun held => new (holds_iff.mpr ⟨entry, found, held⟩)
  have grants : tracker.Grants (.holderAdded shard peer) shard peer := ⟨rfl, rfl, known⟩
  refine ⟨_, addHolder_of_knows known peer, ?_, ?_⟩
  · rw [requiredPeers_after (entryAfter_of_grants grants found), shortfall,
      ReplicaEntry.size_withHolder_of_new notHolder, Nat.sub_add_eq]
    rfl
  · intro other
    rw [holds_after]
    simp [Grants, TrackerEvent.Withdraws, known]

/-- A holder is made one again without a change. -/
theorem after_of_grants_of_holds (event : TrackerEvent)
    (grants : tracker.Grants event shard peer) (holds : tracker.Holds shard peer) :
    tracker.after event = tracker := by
  obtain ⟨entry, found, held⟩ := holds_iff.mp holds
  apply eq_of_entries_eq
  · intro other
    rw [entryOf?_after]
    by_cases same : shard = other
    · rw [← same, entryAfter_of_grants grants found, ReplicaEntry.withHolder_of_holder held, found]
    · exact entryAfter_of_grants_of_ne grants same _
  · exact targets_after tracker event

/-- The loss of a holder is felt where there were no more holders than wanted. -/
theorem requiredPeers_after_of_withdraws (event : TrackerEvent) {entry : ReplicaEntry}
    (withdraws : event.Withdraws shard peer) (found : tracker.entryOf? shard = some entry)
    (held : entry.holders.contains peer = true) :
    (tracker.after event).requiredPeers shard =
      .ok (tracker.shortfall entry +
        if entry.holders.size ≤ tracker.targets.target entry.priority then 1 else 0) := by
  have oneLess := ReplicaEntry.size_withoutHolder_of_holder held
  have samePriority : (entry.withoutHolder peer).priority = entry.priority := rfl
  rw [requiredPeers_after (entryAfter_of_withdraws withdraws found), shortfall, shortfall,
    samePriority]
  congr 1
  split <;> omega

/-! ## Holders one after another -/

/-- Each of any new holders, in whatever order they come, counts for one. -/
theorem requiredPeers_addHolders {peers : List PeerId}
    (required : tracker.requiredPeers shard = .ok needed) (distinct : peers.Nodup)
    (new : ∀ peer ∈ peers, ¬ tracker.Holds shard peer) :
    ∃ later, tracker.addHolders shard peers = .ok later ∧
      later.requiredPeers shard = .ok (needed - peers.length) := by
  induction peers generalizing tracker needed with
  | nil => exact ⟨tracker, rfl, required⟩
  | cons first others inductionHypothesis =>
      obtain ⟨firstNotAgain, othersDistinct⟩ := List.nodup_cons.mp distinct
      obtain ⟨next, isNext, requiredNext, holdersNext⟩ :=
        addHolder_of_new required (new first List.mem_cons_self)
      have othersNew : ∀ peer ∈ others, ¬ next.Holds shard peer := by
        intro peer among holds
        rcases (holdersNext peer).mp holds with rfl | heldBefore
        · exact firstNotAgain among
        · exact new peer (List.mem_cons_of_mem _ among) heldBefore
      obtain ⟨later, isLater, requiredLater⟩ :=
        inductionHypothesis requiredNext othersDistinct othersNew
      refine ⟨later, ?_, ?_⟩
      · rw [addHolders, List.foldlM_cons, isNext]
        exact isLater
      · rw [requiredLater, List.length_cons, Nat.sub_sub, Nat.add_comm 1]

/-- However a tracker came about, it has the targets it was given, and they do not decrease.
Each known shard is either in need of peers or fully deployed, and it is in need exactly if
some are required for it; of those in need, the ones somebody holds are partially deployed,
and those a peer does not hold are in need without it. No registration lowers what is
required for any shard. Of peers that are no holders yet each one brings it down by one, in
whatever order they come, until nothing is required, and the shard is fully deployed from
then on and not before. Making a holder one again changes nothing. Without one of its
holders a shard requires one more if it had no more of them than its target, and as many as
before otherwise. -/
theorem deployment_views_agree_and_follow_the_holders
    {targets : ReplicaTargets}
    {tracker : ReplicationTracker}
    (arises : Arises targets tracker) :
    (tracker.targets = targets ∧ targets.Monotone) ∧
      (∀ shard,
        (tracker.Knows shard ↔ shard ∈ tracker.needingPeers ∨ shard ∈ tracker.fullyDeployed) ∧
        (shard ∈ tracker.needingPeers → shard ∉ tracker.fullyDeployed) ∧
        (shard ∈ tracker.needingPeers ↔
          ∃ needed, tracker.requiredPeers shard = .ok needed ∧ 0 < needed) ∧
        (shard ∈ tracker.partiallyDeployed ↔
          shard ∈ tracker.needingPeers ∧ ∃ peer, tracker.Holds shard peer) ∧
        ∀ peer, shard ∈ tracker.needingPeersExcluding peer ↔
          shard ∈ tracker.needingPeers ∧ ¬ tracker.Holds shard peer) ∧
      (∀ registered priority,
        let later := tracker.register registered priority
        (∀ shard needed, tracker.requiredPeers shard = .ok needed →
          ∃ more, later.requiredPeers shard = .ok more ∧ needed ≤ more) ∧
        ∀ shard ∈ tracker.needingPeers, shard ∈ later.needingPeers) ∧
      (∀ shard needed peers, tracker.requiredPeers shard = .ok needed → peers.Nodup →
        (∀ peer ∈ peers, ¬ tracker.Holds shard peer) →
          ∃ later, tracker.addHolders shard peers = .ok later ∧
            later.requiredPeers shard = .ok (needed - peers.length) ∧
            (shard ∈ later.fullyDeployed ↔ needed ≤ peers.length)) ∧
      (∀ shard peer, tracker.Holds shard peer →
        tracker.addHolder shard peer = .ok tracker ∧ tracker.adoptHolder shard peer = tracker) ∧
      ∀ shard peer entry, tracker.entry shard = .ok entry →
        entry.holders.contains peer = true →
          let raised := tracker.shortfall entry +
            if entry.holders.size ≤ targets.target entry.priority then 1 else 0
          tracker.requiredPeers shard = .ok (tracker.shortfall entry) ∧
            (∃ later, tracker.removeHolder shard peer = .ok later ∧
              later.requiredPeers shard = .ok raised) ∧
            (tracker.dropPeer peer).2.requiredPeers shard = .ok raised := by
  obtain rfl := arises.targets_eq
  refine ⟨⟨rfl, tracker.monotone⟩, ?_, ?_, ?_, ?_, ?_⟩
  · intro shard
    exact ⟨knows_iff_needing_or_fullyDeployed, not_fullyDeployed_of_needing,
      mem_needingPeers_iff, mem_partiallyDeployed_iff, fun _ => mem_needingPeersExcluding_iff⟩
  · intro registered priority later
    refine ⟨?_, ?_⟩
    · intro shard needed required
      exact requiredPeers_register required registered priority
    · intro shard needing
      exact mem_needingPeers_register needing registered priority
  · intro shard needed peers required distinct new
    obtain ⟨later, isLater, requiredLater⟩ := requiredPeers_addHolders required distinct new
    refine ⟨later, isLater, requiredLater, ?_⟩
    rw [mem_fullyDeployed_iff, requiredLater, Except.ok.injEq, Nat.sub_eq_zero_iff_le]
  · intro shard peer holds
    have known := holds.knows
    have addedAgain :=
      after_of_grants_of_holds (.holderAdded shard peer) ⟨rfl, rfl, known⟩ holds
    have adoptedAgain := after_of_grants_of_holds (.holderAdopted shard peer) ⟨rfl, rfl⟩ holds
    exact ⟨by rw [addHolder_of_knows known, addedAgain], adoptedAgain⟩
  · intro shard peer entry isEntry held raised
    have found := entry_eq_ok_iff.mp isEntry
    have removed := removeHolder_of_knows ⟨entry, isEntry⟩ peer
    refine ⟨requiredPeers_eq_ok_iff.mpr ⟨entry, found, rfl⟩, ⟨_, removed, ?_⟩, ?_⟩
    · exact requiredPeers_after_of_withdraws (.holderRemoved shard peer) ⟨rfl, rfl⟩ found held
    · exact requiredPeers_after_of_withdraws (.peerDropped peer) rfl found held

/-- A shard registered at `normal` and held by one peer. -/
def heldByOne (shard : ShardId) (holder : PeerId) : List TrackerEvent :=
  [.registered shard .normal, .holderAdded shard holder]

theorem shard_held_by_one_of_three_needs_two_more :
    ∃ tracker later fewer,
      let shard := ContentId.repeating 1
      let holder := PeerId.ofByte 1
      Arises Settings.default.replication tracker ∧
        tracker.requiredPeers shard = .ok 2 ∧
        tracker.addHolders shard [.ofByte 3, .ofByte 2] = .ok later ∧
        later.requiredPeers shard = .ok 0 ∧
        shard ∈ later.fullyDeployed ∧
        shard ∈ (tracker.register shard .critical).needingPeers ∧
        tracker.addHolder shard holder = .ok tracker ∧
        tracker.removeHolder shard holder = .ok fewer ∧
        fewer.requiredPeers shard = .ok 3 := by
  let fresh : ReplicationTracker :=
    { shards := KeyedMap.empty, targets := Settings.default.replication, monotone := by decide }
  let shard := ContentId.repeating 1
  let holder := PeerId.ofByte 1
  let tracker := fresh.run (heldByOne shard holder)
  let entry : ReplicaEntry := { priority := .normal, holders := KeySet.ofList [holder] }
  have started : start Settings.default.replication = .ok fresh := rfl
  have arises : Arises Settings.default.replication tracker :=
    (Arises.started started).run (heldByOne shard holder)
  obtain ⟨_, views, registrations, additions, again, losses⟩ :=
    deployment_views_agree_and_follow_the_holders arises
  have isEntry : tracker.entry shard = .ok entry := by decide +kernel
  have required : tracker.requiredPeers shard = .ok 2 := by decide +kernel
  have needing : shard ∈ tracker.needingPeers :=
    (views shard).2.2.1.mpr ⟨2, required, Nat.two_pos⟩
  have isHeld : tracker.Holds shard holder := ⟨entry, isEntry, by decide⟩
  have othersNew : ∀ peer ∈ [PeerId.ofByte 3, .ofByte 2], ¬ tracker.Holds shard peer := by
    rintro peer among ⟨found, isFound, held⟩
    rw [isEntry] at isFound
    cases isFound
    revert peer
    decide
  obtain ⟨later, isLater, requiredLater, deployed⟩ :=
    additions shard 2 [.ofByte 3, .ofByte 2] required (by decide) othersNew
  obtain ⟨_, ⟨fewer, isFewer, requiredFewer⟩, _⟩ := losses shard holder entry isEntry (by decide)
  exact ⟨tracker, later, fewer, arises, required, isLater, requiredLater,
    deployed.mpr (Nat.le_refl 2), (registrations shard .critical).2 shard needing,
    (again shard holder isHeld).1, isFewer, requiredFewer⟩

end ReplicationTracker

end BlockCustody
