import BlockCustody.Proofs.Replication.History

/-!
Contract: what a replication tracker knows after a history.

Owns:
- which shards have become known, and with which priority;
- who became a holder and was not withdrawn since;
- what is refused, and what dropping a peer comes to, after any history.

Does not own: how many further holders a shard needs.
-/

namespace BlockCustody

namespace Priority

/-- The priority is one of the list, and none of the list is above it. -/
def IsHighestOf (priority : Priority) (asked : List Priority) : Prop :=
  priority ∈ asked ∧ ∀ other ∈ asked, other.rank ≤ priority.rank

theorem isHighestOf_singleton (priority : Priority) : priority.IsHighestOf [priority] := by
  simp [IsHighestOf]

theorem IsHighestOf.append_max {priority : Priority} {asked : List Priority}
    (isHighest : priority.IsHighestOf asked) (added : Priority) :
    (priority.max added).IsHighestOf (asked ++ [added]) := by
  obtain ⟨member, bound⟩ := isHighest
  unfold max
  split
  · next above =>
      refine ⟨by simp, ?_⟩
      intro other among
      rcases List.mem_append.mp among with earlier | isAdded
      · exact Nat.le_of_lt (Nat.lt_of_le_of_lt (bound other earlier) above)
      · rw [List.mem_singleton.mp isAdded]
  · next notAbove =>
      refine ⟨by simp [member], ?_⟩
      intro other among
      rcases List.mem_append.mp among with earlier | isAdded
      · exact bound other earlier
      · rw [List.mem_singleton.mp isAdded]
        exact Nat.not_lt.mp notAbove

theorem lowest_max (priority : Priority) : lowest.max priority = priority := by
  cases priority <;> rfl

end Priority

namespace TrackerEvent

/-- The event makes the shard known if it is not. -/
def Introduces : TrackerEvent → ShardId → Prop
  | .registered target _, shard => target = shard
  | .holderAdded _ _, _ => False
  | .holderRemoved _ _, _ => False
  | .holderAdopted target _, shard => target = shard
  | .peerDropped _, _ => False

/-- The event takes the peer from the holders of the shard if it is among them. -/
def Withdraws : TrackerEvent → ShardId → PeerId → Prop
  | .registered _ _, _, _ => False
  | .holderAdded _ _, _, _ => False
  | .holderRemoved target gone, shard, peer => target = shard ∧ gone = peer
  | .holderAdopted _ _, _, _ => False
  | .peerDropped gone, _, peer => gone = peer

/-- The priority that the event asks for the shard. -/
def prioritiesFor (shard : ShardId) : TrackerEvent → List Priority
  | .registered target priority => if target = shard then [priority] else []
  | .holderAdded _ _ => []
  | .holderRemoved _ _ => []
  | .holderAdopted _ _ => []
  | .peerDropped _ => []

end TrackerEvent

namespace ReplicationTracker

/-- The event makes the peer a holder of the shard. Adding a holder does so for a shard
that is known, adopting one for any. -/
def Grants (tracker : ReplicationTracker) : TrackerEvent → ShardId → PeerId → Prop
  | .registered _ _, _, _ => False
  | .holderAdded target holder, shard, peer =>
      target = shard ∧ holder = peer ∧ tracker.Knows shard
  | .holderRemoved _ _, _, _ => False
  | .holderAdopted target holder, shard, peer => target = shard ∧ holder = peer
  | .peerDropped _, _, _ => False

/-- The priorities that were ever asked for a shard, after the one it had at first. -/
def prioritiesAsked (tracker : ReplicationTracker) (history : List TrackerEvent)
    (shard : ShardId) : List Priority :=
  ((tracker.entryOf? shard).map ReplicaEntry.priority).toList ++
    history.flatMap (TrackerEvent.prioritiesFor shard)

variable {tracker : ReplicationTracker} {shard : ShardId} {peer : PeerId}

/-! ## One event -/

theorem knows_after {event : TrackerEvent} :
    (tracker.after event).Knows shard ↔ tracker.Knows shard ∨ event.Introduces shard := by
  rw [knows_iff, knows_iff, entryOf?_after]
  cases event
  case peerDropped gone => simp [TrackerEvent.entryAfter, TrackerEvent.Introduces]
  all_goals
    rename_i target _
    by_cases same : target = shard <;>
      simp [TrackerEvent.entryAfter, TrackerEvent.Introduces, same]

/-- After an event the holders are those it made holders, and the earlier ones that it did
not withdraw. -/
theorem holds_after {event : TrackerEvent} :
    (tracker.after event).Holds shard peer ↔
      tracker.Grants event shard peer ∨
        tracker.Holds shard peer ∧ ¬ event.Withdraws shard peer := by
  rw [holds_iff, holds_iff, entryOf?_after]
  cases event with
  | registered target priority =>
      have noHolder : (ReplicaEntry.unheld priority).holders.contains peer = false := rfl
      by_cases same : target = shard <;> cases tracker.entryOf? shard <;>
        simp [TrackerEvent.entryAfter, Grants, TrackerEvent.Withdraws, same, noHolder,
          ReplicaEntry.raise]
  | holderAdded target holder =>
      by_cases same : target = shard <;> cases found : tracker.entryOf? shard <;>
        simp [TrackerEvent.entryAfter, Grants, TrackerEvent.Withdraws, same, knows_iff, found,
          ReplicaEntry.contains_withHolder]
  | holderRemoved target holder =>
      by_cases same : target = shard <;> cases tracker.entryOf? shard <;>
        simp [TrackerEvent.entryAfter, Grants, TrackerEvent.Withdraws, same,
          ReplicaEntry.contains_withoutHolder]
  | holderAdopted target holder =>
      have noHolder : (ReplicaEntry.unheld .lowest).holders.contains peer = false := rfl
      by_cases same : target = shard <;> cases tracker.entryOf? shard <;>
        simp [TrackerEvent.entryAfter, Grants, TrackerEvent.Withdraws, same, noHolder,
          ReplicaEntry.contains_withHolder]
  | peerDropped gone =>
      cases tracker.entryOf? shard <;>
        simp [TrackerEvent.entryAfter, Grants, TrackerEvent.Withdraws,
          ReplicaEntry.contains_withoutHolder]

/-! ## Priorities -/

/-- A shard nothing was asked for is unknown, any other has the highest priority that was
asked for it. Nobody has to ask for the lowest. -/
def PrioritySettledBy (asked : List Priority) : Option ReplicaEntry → Prop
  | none => asked = []
  | some entry => entry.priority.IsHighestOf (.lowest :: asked)

theorem PrioritySettledBy.map {asked : List Priority} {before? : Option ReplicaEntry}
    (settled : PrioritySettledBy asked before?) {change : ReplicaEntry → ReplicaEntry}
    (samePriority : ∀ entry, (change entry).priority = entry.priority) :
    PrioritySettledBy asked (before?.map change) := by
  cases before? with
  | none => exact settled
  | some entry =>
      rw [Option.map_some, PrioritySettledBy, samePriority]
      exact settled

theorem PrioritySettledBy.entryAfter {asked : List Priority} {before? : Option ReplicaEntry}
    (settled : PrioritySettledBy asked before?) (event : TrackerEvent) (shard : ShardId) :
    PrioritySettledBy (asked ++ event.prioritiesFor shard) (event.entryAfter shard before?) := by
  cases event with
  | registered target priority =>
      simp only [TrackerEvent.prioritiesFor, TrackerEvent.entryAfter]
      by_cases same : target = shard
      · rw [if_pos same, if_pos same]
        cases before? with
        | none =>
            have nothingAsked : asked = [] := settled
            have highest := (Priority.isHighestOf_singleton .lowest).append_max priority
            rw [Priority.lowest_max] at highest
            rw [nothingAsked]
            exact highest
        | some entry => exact Priority.IsHighestOf.append_max settled priority
      · rw [if_neg same, if_neg same, List.append_nil]
        exact settled
  | holderAdded target holder =>
      rw [TrackerEvent.prioritiesFor, List.append_nil, TrackerEvent.entryAfter]
      split
      · exact settled.map fun _ => rfl
      · exact settled
  | holderRemoved target holder =>
      rw [TrackerEvent.prioritiesFor, List.append_nil, TrackerEvent.entryAfter]
      split
      · exact settled.map fun _ => rfl
      · exact settled
  | holderAdopted target holder =>
      rw [TrackerEvent.prioritiesFor, List.append_nil, TrackerEvent.entryAfter]
      split
      · cases before? with
        | none =>
            have nothingAsked : asked = [] := settled
            rw [nothingAsked]
            exact Priority.isHighestOf_singleton .lowest
        | some entry => exact settled
      · exact settled
  | peerDropped gone =>
      rw [TrackerEvent.prioritiesFor, List.append_nil, TrackerEvent.entryAfter]
      exact settled.map fun _ => rfl

/-! ## Runs -/

theorem prioritySettledBy_run (tracker : ReplicationTracker) (history : List TrackerEvent)
    (shard : ShardId) :
    PrioritySettledBy (tracker.prioritiesAsked history shard)
      ((tracker.run history).entryOf? shard) := by
  induction history using List.reverseRecOn with
  | nil =>
      rw [prioritiesAsked, List.flatMap_nil, List.append_nil, run, List.foldl_nil]
      cases tracker.entryOf? shard with
      | none => rfl
      | some entry =>
          have highest := (Priority.isHighestOf_singleton .lowest).append_max entry.priority
          rw [Priority.lowest_max] at highest
          exact highest
  | append_singleton history event inductionHypothesis =>
      have settled := inductionHypothesis.entryAfter event shard
      rw [prioritiesAsked, List.append_assoc] at settled
      rw [run_append_singleton, entryOf?_after, prioritiesAsked, List.flatMap_append,
        List.flatMap_singleton]
      exact settled

theorem knows_run_iff {history : List TrackerEvent} :
    (tracker.run history).Knows shard ↔
      tracker.Knows shard ∨ ∃ event ∈ history, event.Introduces shard := by
  induction history generalizing tracker with
  | nil => simp [run]
  | cons event later inductionHypothesis =>
      have laterRun := @inductionHypothesis (tracker.after event)
      rw [knows_after, or_assoc] at laterRun
      simp only [List.mem_cons, exists_eq_or_imp]
      exact laterRun

/-- The holders of a shard are those whose holding was last granted, not withdrawn. -/
theorem holds_run_iff {history : List TrackerEvent} :
    (tracker.run history).Holds shard peer ↔
      (tracker.Holds shard peer ∧ ∀ since ∈ history, ¬ since.Withdraws shard peer) ∨
        Lasts (fun before event => (tracker.run before).Grants event shard peer)
          (fun since => since.Withdraws shard peer) history := by
  induction history using List.reverseRecOn with
  | nil => simp [run, not_lasts_nil]
  | append_singleton history event inductionHypothesis =>
      rw [run_append_singleton, holds_after, inductionHypothesis, lasts_append_singleton]
      simp only [List.mem_append, List.mem_singleton, or_imp, forall_and, forall_eq]
      tauto

theorem not_knows_start {targets : ReplicaTargets} {fresh : ReplicationTracker}
    (started : start targets = .ok fresh) : ¬ fresh.Knows shard := by
  rw [start] at started
  split at started
  · cases started
    exact not_knows_iff.mpr rfl
  · cases started

/-- A tracker after any history. It knows the shards it knew at first and those that were
registered or adopted; each has the highest priority ever asked for it. The holders of a
shard are those made holders while it was known, and not withdrawn since; registering
makes and withdraws none. What is asked or told about the holders of an unknown shard is
refused, and about no other, and changes nothing. Dropping a peer says how many shards it
held, and is removing it from all known shards in any order. -/
theorem tracker_knows_what_it_was_told
    (tracker : ReplicationTracker)
    (history : List TrackerEvent) :
    let later := tracker.run history
    (∀ shard, later.Knows shard ↔
      tracker.Knows shard ∨ ∃ event ∈ history, event.Introduces shard) ∧
      (∀ shard entry, later.entry shard = .ok entry →
        entry.priority.IsHighestOf (.lowest :: tracker.prioritiesAsked history shard)) ∧
      (∀ shard peer, later.Holds shard peer ↔
        (tracker.Holds shard peer ∧ ∀ since ∈ history, ¬ since.Withdraws shard peer) ∨
          Lasts (fun before event => (tracker.run before).Grants event shard peer)
            (fun since => since.Withdraws shard peer) history) ∧
      (∀ registered priority shard peer,
        (later.register registered priority).Holds shard peer ↔ later.Holds shard peer) ∧
      (∀ shard peer fault,
        (later.addHolder shard peer = .error fault ↔
          ¬ later.Knows shard ∧ fault = .notRegistered shard) ∧
        (later.removeHolder shard peer = .error fault ↔
          ¬ later.Knows shard ∧ fault = .notRegistered shard) ∧
        (later.requiredPeers shard = .error fault ↔
          ¬ later.Knows shard ∧ fault = .notRegistered shard) ∧
        (later.entry shard = .error fault ↔
          ¬ later.Knows shard ∧ fault = .notRegistered shard)) ∧
      (∀ shard peer, ¬ later.Knows shard →
        later.after (.holderAdded shard peer) = later ∧
          later.after (.holderRemoved shard peer) = later) ∧
      (∀ peer,
        (∃ held : List ShardId, held.Nodup ∧ (∀ shard, shard ∈ held ↔ later.Holds shard peer) ∧
          (later.dropPeer peer).1 = held.length) ∧
        ∀ order : List ShardId, (∀ shard, later.Knows shard → shard ∈ order) →
          later.run (order.map fun shard => .holderRemoved shard peer) =
            (later.dropPeer peer).2) ∧
      ∀ targets fresh, start targets = .ok fresh → ∀ shard, ¬ fresh.Knows shard := by
  intro later
  refine ⟨fun _ => knows_run_iff, ?_, fun _ _ => holds_run_iff, ?_, ?_, ?_, ?_, ?_⟩
  · intro shard entry found
    have settled := prioritySettledBy_run tracker history shard
    rw [entry_eq_ok_iff.mp found] at settled
    exact settled
  · intro registered priority shard peer
    have registration := @holds_after later shard peer (.registered registered priority)
    simpa [Grants, TrackerEvent.Withdraws, after] using registration
  · intro shard peer fault
    exact ⟨changeHolders_eq_error_iff, changeHolders_eq_error_iff, requiredPeers_eq_error_iff,
      entry_eq_error_iff⟩
  · intro shard peer unknown
    exact ⟨afterAttempt_of_not_knows unknown _, afterAttempt_of_not_knows unknown _⟩
  · intro peer
    refine ⟨fst_dropPeer later peer, ?_⟩
    intro order all
    exact run_holderRemoved_eq_dropPeer later peer all
  · intro targets fresh started shard
    exact not_knows_start started

/-- A peer is refused as a holder and then found to be one; the shard is registered at
`normal` and again at `lax`; a second peer becomes a holder and the first is withdrawn. -/
def foundThenRegistered (shard : ShardId) (first second : PeerId) : List TrackerEvent :=
  [.holderAdded shard first, .holderAdopted shard first, .registered shard .normal,
    .registered shard .lax, .holderAdded shard second, .holderRemoved shard first]

theorem found_shard_stays_at_normal_with_second_holder :
    ∃ fresh entry,
      let shard := ContentId.repeating 1
      let unknown := ContentId.repeating 2
      let second := PeerId.ofByte 2
      let later := ReplicationTracker.run fresh (foundThenRegistered shard (.ofByte 1) second)
      start Settings.default.replication = .ok fresh ∧
        ¬ fresh.Knows shard ∧
        later.entry shard = .ok entry ∧
        entry.priority.IsHighestOf [.lowest, .normal, .lax] ∧
        later.Holds shard second ∧
        later.addHolder unknown second = .error (.notRegistered unknown) ∧
        later.after (.holderAdded unknown second) = later ∧
        later.run ([unknown, shard].map fun target => .holderRemoved target second) =
          (later.dropPeer second).2 := by
  let fresh : ReplicationTracker :=
    { shards := KeyedMap.empty, targets := Settings.default.replication, monotone := by decide }
  let shard := ContentId.repeating 1
  let unknown := ContentId.repeating 2
  let second := PeerId.ofByte 2
  let later := fresh.run (foundThenRegistered shard (.ofByte 1) second)
  obtain ⟨known, priorities, holders, _, refusals, unchanged, dropped, started⟩ :=
    tracker_knows_what_it_was_told fresh (foundThenRegistered shard (.ofByte 1) second)
  have isFresh : start Settings.default.replication = .ok fresh := rfl
  have isKnown : later.Knows shard :=
    (known shard).mpr (Or.inr ⟨.registered shard .lax, by simp [foundThenRegistered], rfl⟩)
  have onlyShard : ∀ target, later.Knows target → target = shard := by
    intro target isTarget
    rcases (known target).mp isTarget with atFirst | introduced
    · exact absurd atFirst (started _ fresh isFresh target)
    · simpa [foundThenRegistered, TrackerEvent.Introduces, eq_comm] using introduced
  have isUnknown : ¬ later.Knows unknown := fun isKnown =>
    absurd (onlyShard unknown isKnown) (by decide)
  have granted : later.Holds shard second :=
    (holders shard second).mpr (Or.inr
      ⟨[.holderAdded shard (.ofByte 1), .holderAdopted shard (.ofByte 1),
          .registered shard .normal, .registered shard .lax],
        .holderAdded shard second, [.holderRemoved shard (.ofByte 1)], rfl,
        ⟨rfl, rfl, knows_run_iff.mpr (Or.inr ⟨.registered shard .lax, by simp, rfl⟩)⟩,
        by simp [TrackerEvent.Withdraws, second]; decide⟩)
  obtain ⟨entry, found⟩ := isKnown
  refine ⟨fresh, entry, isFresh, started _ fresh isFresh shard, found,
    priorities shard entry found, granted, ?_, (unchanged unknown second isUnknown).1, ?_⟩
  · exact ((refusals unknown second _).1).mpr ⟨isUnknown, rfl⟩
  · apply (dropped second).2
    intro target isTarget
    simp [onlyShard target isTarget, shard]

end ReplicationTracker

end BlockCustody
