import BlockCustody.Proofs.Upload.Unfolding

/-!
Contract: what the log of an upload loop tells of its state.

Owns:
- that a loop owes a run exactly if a signal was given since a run was last started, and
  owes no more than one;
- how far the state of a loop follows from its log, whatever happens.

Does not own: what can happen to a loop, and when runs start.
-/

namespace BlockCustody

namespace UploadLoop

open UploadMoment (firstSignal? lastFinish starts)

/-- A run is still to come: a quiet period goes on, or a signal is pending. -/
def owes (loop : UploadLoop) : Bool :=
  match loop.phase with
  | .quiet _ => true
  | _ => loop.signalled

variable {first loop later : UploadLoop} {log more : List UploadMoment} {event : UploadEvent}
  {quietTime finish : Nat}

/-! ## The run that is owed -/

/-- A signal makes a run owed, and its start settles it; nothing else bears on it. -/
theorem Happens.owes_eq (happens : loop.Happens event later) :
    later.owes =
      match event with
      | .triggered => true
      | .fired => false
      | _ => loop.owes := by
  cases happens with
  | triggered _ =>
      rw [owes]
      split <;> rfl
  | cloned _ => rfl
  | dropped _ => rfl
  | received waiting pending steps =>
      rw [step?_of_pending waiting pending] at steps
      cases steps
      simp [owes, waiting, pending]
  | drained isOver _ => simp [owes, isOver]
  | fired isOver _ steps =>
      rw [step?_of_quiet isOver] at steps
      cases steps
      rfl
  | finished busy => simp [owes, busy]
  | closed waiting silent steps =>
      rw [step?_of_silent waiting silent] at steps
      split at steps
      · cases steps
        simp [owes, waiting]
      · cases steps
  | waited _ => rfl

/-- No run starts that is not owed. -/
theorem Happens.owes_of_fired (happens : loop.Happens .fired later) : loop.owes = true := by
  cases happens with
  | fired isOver _ _ => simp [owes, isOver]

theorem Unfolds.owes_eq (unfolds : first.Unfolds log loop) (nothing : first.owes = false) :
    loop.owes = (firstSignal? log).isSome := by
  induction unfolds with
  | start => exact nothing
  | @next _ _ _ event _ happens inductionHypothesis =>
      rw [happens.owes_eq, inductionHypothesis]
      cases event <;> rfl

/-- What is owed stays owed until a run starts. -/
theorem Unfolds.owes_of_no_start
    (unfolds : loop.Unfolds more later)
    (noStart : starts more = [])
    (owed : loop.owes = true) :
    later.owes = true := by
  induction unfolds with
  | start => exact owed
  | @next _ _ _ event _ happens inductionHypothesis =>
      rw [happens.owes_eq]
      cases event with
      | fired => cases noStart
      | triggered => rfl
      | _ => exact inductionHypothesis noStart

/-- Without another signal no more runs start than are owed, and what does not start stays
owed. -/
theorem Unfolds.length_starts_add_owes
    (unfolds : loop.Unfolds more later)
    (unprompted : Unprompted more) :
    (starts more).length + later.owes.toNat = loop.owes.toNat := by
  induction unfolds with
  | start => exact Nat.zero_add _
  | @next log before _ event _ happens inductionHypothesis =>
      simp only [Unprompted, List.mem_cons, forall_eq_or_imp] at unprompted
      rw [← inductionHypothesis unprompted.2, happens.owes_eq]
      cases event with
      | triggered => exact absurd rfl unprompted.1
      | fired =>
          rw [happens.owes_of_fired]
          rfl
      | _ => rfl

/-! ## The state of a loop and its log -/

/-- What a log tells of the loop it led to. A quiet period starts as soon as a first signal
has been given and no run goes on, and takes as long as the loop then sleeps. A loop only
ends when there are no handles and no signals. -/
structure Follows (loop : UploadLoop) (quietTime : Nat) (log : List UploadMoment) : Prop where
  period : loop.sleepLength loop.quietPeriod = quietTime
  runs : loop.runs = starts log
  signalIsPast : ∀ instant, firstSignal? log = some instant → instant ≤ loop.now
  finishIsPast : lastFinish log ≤ loop.now
  atOnce : loop.phase = .waiting →
    ∀ instant, firstSignal? log = some instant → loop.now = max instant (lastFinish log)
  window : ∀ finish, loop.phase = .quiet finish →
    loop.now ≤ finish ∧ ∀ instant, firstSignal? log = some instant →
      finish = max instant (lastFinish log) + quietTime
  released : loop.phase = .ended → loop.handles = 0 ∧ loop.signalled = false

theorem start_follows (quietPeriod : Nat) (sleepLength runLength : Nat → Nat) :
    (start quietPeriod sleepLength runLength).Follows (sleepLength quietPeriod) [] := by
  constructor <;> simp [start, starts, firstSignal?, lastFinish]

/-- A moment that is no signal, no start and no end of a run leaves what the log tells. -/
theorem Follows.longer
    (follows : loop.Follows quietTime log)
    (sameSignal : firstSignal? more = firstSignal? log)
    (sameFinish : lastFinish more = lastFinish log)
    (sameStarts : starts more = starts log) :
    loop.Follows quietTime more :=
  { follows with
    runs := by rw [sameStarts, follows.runs]
    signalIsPast := by
      rw [sameSignal]
      exact follows.signalIsPast
    finishIsPast := by
      rw [sameFinish]
      exact follows.finishIsPast
    atOnce := by
      rw [sameSignal, sameFinish]
      exact follows.atOnce
    window := by
      rw [sameSignal, sameFinish]
      exact follows.window }

theorem exists_firstSignal?_of_quiet
    (owed : loop.owes = (firstSignal? log).isSome)
    (quiet : loop.phase = .quiet finish) :
    ∃ instant, firstSignal? log = some instant := by
  rw [owes, quiet] at owed
  exact Option.isSome_iff_exists.mp owed.symm

/-- A signal in the quiet period does not put off its end, nor does one during a run start
another quiet period earlier than the run's end. -/
theorem Follows.triggered
    (follows : loop.Follows quietTime log)
    (owed : loop.owes = (firstSignal? log).isSome)
    (held : 0 < loop.handles) :
    loop.trigger.Follows quietTime (⟨loop.now, .triggered⟩ :: log) :=
  { follows with
    signalIsPast := by
      intro instant isFirst
      cases isFirst
      cases earlier : firstSignal? log with
      | none => exact Nat.le_refl _
      | some instant => exact follows.signalIsPast instant earlier
    atOnce := by
      intro waiting instant isFirst
      cases isFirst
      cases earlier : firstSignal? log with
      | none => exact (Nat.max_eq_left follows.finishIsPast).symm
      | some instant => exact follows.atOnce waiting instant earlier
    window := by
      intro finish quiet
      obtain ⟨inTime, isFinish⟩ := follows.window finish quiet
      obtain ⟨instant, earlier⟩ := exists_firstSignal?_of_quiet owed quiet
      refine ⟨inTime, ?_⟩
      intro instant' isFirst
      cases isFirst
      rw [earlier]
      exact isFinish instant earlier
    released := by
      intro ended
      rw [(follows.released ended).1] at held
      cases held }

/-- Handles come and go while there are any. -/
theorem Follows.handled
    {handles : Nat}
    (follows : loop.Follows quietTime log)
    (held : 0 < loop.handles) :
    Follows { loop with handles } quietTime log :=
  { follows with
    released := by
      intro ended
      rw [(follows.released ended).1] at held
      cases held }

theorem Follows.received
    (follows : loop.Follows quietTime log)
    (waiting : loop.phase = .waiting) :
    Follows
      { loop with
        signalled := false
        phase := .quiet (loop.now + loop.sleepLength loop.quietPeriod) }
      quietTime log :=
  { follows with
    atOnce := nofun
    window := by
      intro finish quiet
      cases quiet
      refine ⟨Nat.le_add_right _ _, ?_⟩
      intro instant isFirst
      rw [← follows.atOnce waiting instant isFirst, follows.period]
    released := nofun }

theorem Follows.drained (follows : loop.Follows quietTime log) :
    Follows { loop with signalled := false } quietTime log :=
  { follows with
    released := fun ended => ⟨(follows.released ended).1, rfl⟩ }

theorem Follows.fired (follows : loop.Follows quietTime log) :
    Follows
      { loop with
        signalled := false
        phase := .running finish
        runs := loop.now :: loop.runs }
      quietTime (⟨loop.now, .fired⟩ :: log) :=
  { follows with
    runs := congrArg (loop.now :: ·) follows.runs
    signalIsPast := nofun
    atOnce := nofun
    window := nofun
    released := nofun }

theorem Follows.finished (follows : loop.Follows quietTime log) :
    Follows { loop with phase := .waiting } quietTime (⟨loop.now, .finished⟩ :: log) :=
  { follows with
    finishIsPast := Nat.le_refl _
    atOnce := by
      intro _ instant isFirst
      exact (Nat.max_eq_right (follows.signalIsPast instant isFirst)).symm
    window := nofun
    released := nofun }

theorem Follows.closed
    (follows : loop.Follows quietTime log)
    (silent : loop.signalled = false)
    (abandoned : loop.handles = 0) :
    Follows { loop with phase := .ended } quietTime log :=
  { follows with
    atOnce := nofun
    window := nofun
    released := fun _ => ⟨abandoned, silent⟩ }

/-- No time passes while a signal is to be received, and none beyond a quiet period. -/
theorem Follows.waited
    {span : Nat}
    (follows : loop.Follows quietTime log)
    (owed : loop.owes = (firstSignal? log).isSome)
    (allowed : loop.Allows span) :
    Follows { loop with now := loop.now + span } quietTime log :=
  { follows with
    signalIsPast := by
      intro instant isFirst
      exact Nat.le_add_right_of_le (follows.signalIsPast instant isFirst)
    finishIsPast := Nat.le_add_right_of_le follows.finishIsPast
    atOnce := by
      intro waiting instant isFirst
      have isNow := follows.atOnce waiting instant isFirst
      have pending : loop.signalled = true := by
        rw [owes, waiting, isFirst] at owed
        exact owed
      rcases allowed with ⟨_, busy⟩ | notPast
      · rw [waiting] at busy
        cases busy
      · -- The signal is due to be received now, so that the span is nothing.
        have noTime := notPast _ _ (step?_of_pending waiting pending)
        change loop.now + span = _
        omega
    window := by
      intro finish quiet
      obtain ⟨_, isFinish⟩ := follows.window finish quiet
      refine ⟨?_, isFinish⟩
      rcases allowed with ⟨_, busy⟩ | notPast
      · rw [quiet] at busy
        cases busy
      · exact notPast _ _ (step?_of_quiet quiet) }

/-- Whatever happens, the log goes on telling of the loop. -/
theorem Follows.next
    (follows : loop.Follows quietTime log)
    (owed : loop.owes = (firstSignal? log).isSome)
    (happens : loop.Happens event later) :
    later.Follows quietTime (⟨loop.now, event⟩ :: log) := by
  cases happens with
  | triggered held => exact follows.triggered owed held
  | cloned held => exact (follows.handled held).longer rfl rfl rfl
  | dropped held => exact (follows.handled held).longer rfl rfl rfl
  | received waiting pending steps =>
      rw [step?_of_pending waiting pending] at steps
      cases steps
      exact (follows.received waiting).longer rfl rfl rfl
  | drained _ _ => exact follows.drained.longer rfl rfl rfl
  | fired isOver _ steps =>
      rw [step?_of_quiet isOver] at steps
      cases steps
      exact follows.fired
  | finished _ => exact follows.finished
  | closed waiting silent steps =>
      rw [step?_of_silent waiting silent] at steps
      split at steps
      · next abandoned =>
          cases steps
          exact (follows.closed silent abandoned).longer rfl rfl rfl
      · cases steps
  | waited allowed => exact (follows.waited owed allowed).longer rfl rfl rfl

theorem Unfolds.follows
    (unfolds : first.Unfolds log loop)
    (follows : first.Follows quietTime [])
    (nothing : first.owes = false) :
    loop.Follows quietTime log := by
  induction unfolds with
  | start => exact follows
  | next before happens inductionHypothesis =>
      -- That a run is owed exactly after a signal carries the step, and is known by itself.
      exact inductionHypothesis.next (before.owes_eq nothing) happens

end UploadLoop

end BlockCustody
