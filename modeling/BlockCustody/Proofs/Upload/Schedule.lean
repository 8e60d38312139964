import BlockCustody.Proofs.Upload.Invariant

/-!
Contract: when uploads run, whatever handles do and however long runs last.

Owns:
- when a run starts, by when it must, and that one that is owed can;
- that all signals given until a run starts share that run.

Does not own: the state of a loop in between.
-/

namespace BlockCustody

namespace UploadLoop

open UploadMoment (firstSignal? lastFinish starts)

variable {loop later : UploadLoop} {log : List UploadMoment} {event : UploadEvent}
  {quietTime finish : Nat}

/-! ## When runs start -/

theorem Follows.now_of_fired
    (follows : loop.Follows quietTime log)
    (owed : loop.owes = (firstSignal? log).isSome)
    (happens : loop.Happens .fired later) :
    ∃ instant, firstSignal? log = some instant ∧
      loop.now = max instant (lastFinish log) + quietTime := by
  cases happens with
  | fired isOver _ _ =>
      obtain ⟨instant, isFirst⟩ := exists_firstSignal?_of_quiet owed isOver
      exact ⟨instant, isFirst, (follows.window _ isOver).2 instant isFirst⟩

/-- Unless a run goes on, a signal is not left unanswered any longer than that. -/
theorem Follows.now_le
    {instant : Nat}
    (follows : loop.Follows quietTime log)
    (owed : loop.owes = (firstSignal? log).isSome)
    (isFirst : firstSignal? log = some instant) :
    (∃ finish, loop.phase = .running finish) ∨
      loop.now ≤ max instant (lastFinish log) + quietTime := by
  cases isPhase : loop.phase with
  | waiting =>
      rw [follows.atOnce isPhase instant isFirst]
      exact Or.inr (Nat.le_add_right _ _)
  | quiet finish =>
      obtain ⟨inTime, isFinish⟩ := follows.window finish isPhase
      rw [← isFinish instant isFirst]
      exact Or.inr inTime
  | running finish => exact Or.inl ⟨finish, rfl⟩
  | ended =>
      rw [owes, isPhase, (follows.released isPhase).2, isFirst] at owed
      cases owed

theorem Follows.not_ended_of_owes (follows : loop.Follows quietTime log)
    (owed : loop.owes = true) : loop.phase ≠ .ended := by
  intro ended
  rw [owes, ended, (follows.released ended).2] at owed
  cases owed

theorem starts_append (later earlier : List UploadMoment) :
    starts (later ++ earlier) = starts later ++ starts earlier := by
  induction later with
  | nil => rfl
  | cons moment others inductionHypothesis =>
      rw [List.cons_append, starts, starts, inductionHypothesis]
      split <;> rfl

/-- A run can start without another signal. -/
def CanStart (loop : UploadLoop) : Prop :=
  ∃ more later, loop.Unfolds more later ∧ Unprompted more ∧ starts more ≠ []

theorem canStart_of_next
    (happens : loop.Happens event later)
    (notSignal : event ≠ .triggered)
    (canStart : later.CanStart) :
    loop.CanStart := by
  obtain ⟨more, last, unfolds, unprompted, started⟩ := canStart
  refine ⟨more ++ [⟨loop.now, event⟩], last, (Unfolds.start.next happens).trans unfolds,
    unprompted.append (by simpa [Unprompted] using notSignal), ?_⟩
  rw [starts_append]
  exact List.append_ne_nil_of_left_ne_nil started _

theorem canStart_of_quiet (quiet : loop.phase = .quiet finish) (inTime : loop.now ≤ finish) :
    loop.CanStart := by
  obtain ⟨more, unfolds, unprompted, started⟩ :=
    unfolds_of_quiet quiet inTime (step?_of_quiet quiet)
  exact ⟨more, _, unfolds, unprompted, by rw [started]; exact List.cons_ne_nil _ _⟩

theorem canStart_of_waiting (waiting : loop.phase = .waiting) (pending : loop.signalled = true) :
    loop.CanStart :=
  canStart_of_next (.received waiting pending (step?_of_pending waiting pending)) (by decide)
    (canStart_of_quiet rfl (Nat.le_add_right _ _))

theorem Follows.canStart (follows : loop.Follows quietTime log) (owed : loop.owes = true) :
    loop.CanStart := by
  cases isPhase : loop.phase with
  | waiting =>
      rw [owes, isPhase] at owed
      exact canStart_of_waiting isPhase owed
  | quiet finish => exact canStart_of_quiet isPhase (follows.window finish isPhase).1
  | running finish =>
      rw [owes, isPhase] at owed
      exact canStart_of_next (.finished isPhase) (by decide) (canStart_of_waiting rfl owed)
  | ended => exact absurd isPhase (follows.not_ended_of_owes owed)

/-- An upload loop, whatever its handles do and however long its runs last. It owes a run
exactly if a signal was given since a run was last started; unless a run goes on, no
signal waits longer than the loop sleeps, counted from the first of them or from the end
of the last run. A run that is owed can start, is owed until it does, and keeps the loop
from ending. Each run has a signal since the one before, and starts as long after the first
of these and the end of the one before as the loop sleeps, which is a quiet period exactly
if a sleep of a quiet period lasts as it was asked to. Signals that are not followed by
others lead to one run and no more. A loop ends without handles, owing nothing. Letting time
pass is such a course of events. -/
theorem signals_share_one_run_that_starts_on_time
    {quietPeriod : Nat}
    {sleepLength runLength : Nat → Nat}
    {log : List UploadMoment}
    {loop : UploadLoop}
    (unfolds : (start quietPeriod sleepLength runLength).Unfolds log loop) :
    loop.runs = starts log ∧
      loop.owes = (firstSignal? log).isSome ∧
      (∀ first, firstSignal? log = some first →
        (∃ finish, loop.phase = .running finish) ∨
          loop.now ≤ max first (lastFinish log) + sleepLength quietPeriod) ∧
      (loop.owes = true → loop.CanStart ∧
        ∀ more later, loop.Unfolds more later → starts more = [] →
          later.owes = true ∧ later.phase ≠ .ended) ∧
      (∀ since instant earlier, log = since ++ ⟨instant, .fired⟩ :: earlier →
        ∃ first, firstSignal? earlier = some first ∧
          instant = max first (lastFinish earlier) + sleepLength quietPeriod ∧
          (instant = max first (lastFinish earlier) + quietPeriod ↔
            sleepLength quietPeriod = quietPeriod)) ∧
      (∀ more later, loop.Unfolds more later → Unprompted more →
        (starts more).length ≤ 1 ∧
          (starts more).length + later.owes.toNat = loop.owes.toNat) ∧
      (loop.phase = .ended → loop.handles = 0 ∧ loop.owes = false) ∧
      (loop.InTime → ∀ instant, loop.now ≤ instant →
        ∃ more, loop.Unfolds more (loop.advanceTo instant) ∧ Unprompted more ∧
          (loop.advanceTo instant).InTime) := by
  have tells : ∀ {log loop}, (start quietPeriod sleepLength runLength).Unfolds log loop →
      loop.Follows (sleepLength quietPeriod) log ∧ loop.owes = (firstSignal? log).isSome :=
    fun unfolds =>
      ⟨unfolds.follows (start_follows quietPeriod sleepLength runLength) rfl, unfolds.owes_eq rfl⟩
  obtain ⟨follows, owed⟩ := tells unfolds
  refine ⟨follows.runs, owed, fun _ => follows.now_le owed, ?_, ?_, ?_, ?_, ?_⟩
  · intro isOwed
    refine ⟨follows.canStart isOwed, ?_⟩
    intro more later continues noStart
    have stillOwed := continues.owes_of_no_start noStart isOwed
    exact ⟨stillOwed, (tells (unfolds.trans continues)).1.not_ended_of_owes stillOwed⟩
  · rintro since instant earlier rfl
    obtain ⟨before, after, isBefore, rfl, fires, _⟩ := unfolds.split
    obtain ⟨followsBefore, owedBefore⟩ := tells isBefore
    obtain ⟨first, isFirst, isInstant⟩ := followsBefore.now_of_fired owedBefore fires
    exact ⟨first, isFirst, isInstant, by omega⟩
  · intro more later continues unprompted
    have settled := continues.length_starts_add_owes unprompted
    have atMostOne := Bool.toNat_le loop.owes
    exact ⟨by omega, settled⟩
  · intro ended
    obtain ⟨abandoned, silent⟩ := follows.released ended
    exact ⟨abandoned, by rw [owes, ended]; exact silent⟩
  · intro inTime instant notPast
    exact unfolds_advanceTo inTime notPast

/-! ## The first run -/

/-- A signal is given at once, and the run it leads to starts. The latest moment is
first. -/
def firstRun (quietTime : Nat) : List UploadMoment :=
  [⟨quietTime, .fired⟩, ⟨0, .waited quietTime⟩, ⟨0, .received⟩, ⟨0, .triggered⟩]

theorem unfolds_firstRun (quietPeriod : Nat) (sleepLength runLength : Nat → Nat) :
    let quietTime := sleepLength quietPeriod
    (start quietPeriod sleepLength runLength).Unfolds (firstRun quietTime)
      { start quietPeriod sleepLength runLength with
        now := quietTime
        phase := .running (quietTime + runLength 0)
        runs := [quietTime] } := by
  intro quietTime
  have signalled := Unfolds.start.next
    (@Happens.triggered (start quietPeriod sleepLength runLength) Nat.zero_lt_one)
  have received := signalled.next (.received rfl rfl rfl)
  have passed := received.next (@Happens.waited _ quietTime (Or.inr fun due next steps => by
    cases steps
    exact Nat.le_refl _))
  have fired := passed.next (.fired rfl rfl rfl)
  simpa [firstRun, start, trigger, quietTime] using fired

theorem runs_advanceTo_quietTime
    (quietPeriod : Nat)
    (sleepLength : Nat → Nat)
    {runLength : Nat → Nat}
    (lasts : 0 < runLength 0) :
    let quietTime := sleepLength quietPeriod
    ((start quietPeriod sleepLength runLength).trigger.advanceTo quietTime).runs = [quietTime] := by
  intro quietTime
  have isOver : 0 + quietTime ≤ quietTime := Nat.le_of_eq (Nat.zero_add quietTime)
  have notDue : quietTime < 0 + quietTime + runLength 0 := by omega
  rw [advanceTo_of_due (step?_of_pending rfl rfl) (Nat.zero_le _),
    advanceTo_of_due (step?_of_quiet rfl) isOver,
    advanceTo_of_not_due isOver fun due next steps => by
      cases steps
      exact notDue]
  exact congrArg ([·]) (Nat.zero_add quietTime)

/-- A timer that sleeps for no more than thirty years of 365 days ends a longer quiet period
early. -/
theorem overlong_quiet_period_is_cut_short :
    let longest := 946080000000
    let loop := start (longest + 1) (fun span => min span longest) fun _ => 1
    (loop.trigger.advanceTo longest).runs = [longest] ∧
      ¬ ∀ log last, loop.Unfolds log last →
        ∀ since instant earlier, log = since ++ ⟨instant, .fired⟩ :: earlier →
          ∃ first, firstSignal? earlier = some first ∧
            instant = max first (lastFinish earlier) + (longest + 1) := by
  intro longest loop
  have quietTime : min (longest + 1) longest = longest := Nat.min_eq_right (Nat.le_succ longest)
  have runs := @runs_advanceTo_quietTime (longest + 1) (fun span => min span longest)
    (fun _ => 1) Nat.zero_lt_one
  have unfolds := unfolds_firstRun (longest + 1) (fun span => min span longest) fun _ => 1
  simp only [quietTime] at runs unfolds
  refine ⟨runs, ?_⟩
  intro asAsked
  obtain ⟨first, isFirst, isInstant⟩ := asAsked _ _ unfolds [] longest _ rfl
  cases isFirst
  omega

/-- What follows the first run: a signal while it goes on, after which the only handle is
dropped, and then its end after a minute. -/
def signalDuringRun : List UploadMoment :=
  [⟨90, .finished⟩, ⟨40, .waited 50⟩, ⟨40, .dropped⟩, ⟨40, .triggered⟩, ⟨30, .waited 10⟩]

theorem signal_during_run_is_answered_after_last_handle :
    ∃ loop more last,
      (start 30 id fun _ => 60).Unfolds (signalDuringRun ++ firstRun 30) loop ∧
        loop.handles = 0 ∧
        loop.runs = [30] ∧
        loop.owes = true ∧
        loop.Unfolds more last ∧
        (starts more).length = 1 ∧
        last.owes = false ∧
        ∃ first, firstSignal? (firstRun 30).tail = some first ∧ 30 = max first 0 + 30 := by
  let loop : UploadLoop :=
    { start 30 id fun _ => 60 with now := 90, handles := 0, signalled := true, runs := [30] }
  have unfolds : (start 30 id fun _ => 60).Unfolds (signalDuringRun ++ firstRun 30) loop := by
    have busy := (unfolds_firstRun 30 id fun _ => 60).next (@Happens.waited _ 10 (Or.inl ⟨_, rfl⟩))
    have signalled := busy.next (.triggered Nat.zero_lt_one)
    have dropped := signalled.next (.dropped Nat.zero_lt_one)
    have busyStill := dropped.next (@Happens.waited _ 50 (Or.inl ⟨_, rfl⟩))
    exact busyStill.next (.finished rfl)
  obtain ⟨runs, owed, _, comes, onTime, share, _⟩ :=
    signals_share_one_run_that_starts_on_time unfolds
  obtain ⟨⟨more, last, continues, unprompted, started⟩, _⟩ := comes owed
  obtain ⟨atMostOne, settled⟩ := share more last continues unprompted
  obtain ⟨first, isFirst, isInstant, _⟩ := onTime signalDuringRun 30 (firstRun 30).tail rfl
  have isOne : (starts more).length = 1 := by
    have notNone := List.length_pos_iff.mpr started
    omega
  refine ⟨loop, more, last, unfolds, rfl, runs, owed, continues, isOne, ?_, first, isFirst,
    isInstant⟩
  cases isOwed : last.owes with
  | false => rfl
  | true =>
      rw [isOne, isOwed, owed] at settled
      cases settled

end UploadLoop

end BlockCustody
