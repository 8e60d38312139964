import BlockCustody.Upload.Debounce

/-!
Contract: the life of an upload loop, moment by moment.

Owns:
- what can happen to a loop at an instant, in any order, while runs last any time;
- logs of what happened, and what they tell of signals and of runs;
- that letting time pass up to an instant, with every step due by then, is such a life.

Does not own: what a log says about the loop it led to.
-/

namespace BlockCustody

/-- What happens to an upload loop: what handles do, what the loop does, and that time
passes. -/
inductive UploadEvent where
  | triggered
  | cloned
  | dropped
  /-- A pending signal starts a quiet period. -/
  | received
  /-- The quiet period is over, and a signal given during it is taken back. -/
  | drained
  /-- The quiet period is over, no signal is left, and a run starts. -/
  | fired
  | finished
  | closed
  | waited (span : Nat)
deriving DecidableEq

/-- An event and when it happened. -/
structure UploadMoment where
  instant : Nat
  event : UploadEvent
deriving DecidableEq

/-! ## Logs -/

namespace UploadMoment

/-- When the first signal was given since a run was last started, or at all if none was.
A log has its latest moment first. -/
def firstSignal? : List UploadMoment → Option Nat
  | [] => none
  | moment :: earlier =>
      match moment.event with
      | .fired => none
      | .triggered => some ((firstSignal? earlier).getD moment.instant)
      | _ => firstSignal? earlier

/-- When a run last ended, or zero if none did. -/
def lastFinish : List UploadMoment → Nat
  | [] => 0
  | moment :: earlier =>
      match moment.event with
      | .finished => moment.instant
      | _ => lastFinish earlier

/-- When runs were started, the latest first. -/
def starts : List UploadMoment → List Nat
  | [] => []
  | moment :: earlier =>
      match moment.event with
      | .fired => moment.instant :: starts earlier
      | _ => starts earlier

end UploadMoment

namespace UploadLoop

/-- Time can pass: nothing but the end of a run becomes overdue. -/
def Allows (loop : UploadLoop) (span : Nat) : Prop :=
  (∃ finish, loop.phase = .running finish) ∨
    ∀ due next, loop.step? = some (due, next) → loop.now + span ≤ due

/-- What can happen to a loop, and what it is then. Its steps are the ones it takes when
they are due, but that a run may end at any moment, and that a signal is taken back by a
step of its own. -/
inductive Happens (loop : UploadLoop) : UploadEvent → UploadLoop → Prop where
  | triggered (held : 0 < loop.handles) : Happens loop .triggered loop.trigger
  | cloned (held : 0 < loop.handles) : Happens loop .cloned loop.cloneHandle
  | dropped (held : 0 < loop.handles) : Happens loop .dropped loop.dropHandle
  | received {next : UploadLoop}
      (waiting : loop.phase = .waiting)
      (pending : loop.signalled = true)
      (steps : loop.step? = some (loop.now, next)) :
      Happens loop .received next
  | drained
      (isOver : loop.phase = .quiet loop.now)
      (pending : loop.signalled = true) :
      Happens loop .drained { loop with signalled := false }
  | fired {next : UploadLoop}
      (isOver : loop.phase = .quiet loop.now)
      (silent : loop.signalled = false)
      (steps : loop.step? = some (loop.now, next)) :
      Happens loop .fired next
  | finished {finish : Nat} (busy : loop.phase = .running finish) :
      Happens loop .finished { loop with phase := .waiting }
  | closed {next : UploadLoop}
      (waiting : loop.phase = .waiting)
      (silent : loop.signalled = false)
      (steps : loop.step? = some (loop.now, next)) :
      Happens loop .closed next
  | waited {span : Nat} (allowed : loop.Allows span) :
      Happens loop (.waited span) { loop with now := loop.now + span }

/-- The loop comes to be another one by the moments of a log. -/
inductive Unfolds (first : UploadLoop) : List UploadMoment → UploadLoop → Prop where
  | start : Unfolds first [] first
  | next {log : List UploadMoment} {loop later : UploadLoop} {event : UploadEvent}
      (before : Unfolds first log loop)
      (happens : loop.Happens event later) :
      Unfolds first (⟨loop.now, event⟩ :: log) later

variable {first loop next last : UploadLoop} {log more : List UploadMoment} {due finish : Nat}

theorem Unfolds.trans (earlier : first.Unfolds log loop) (later : loop.Unfolds more last) :
    first.Unfolds (more ++ log) last := by
  induction later with
  | start => exact earlier
  | next _ happens inductionHypothesis => exact inductionHypothesis.next happens

/-- At each moment of a log there was a loop to which it happened. -/
theorem Unfolds.split {later earlier : List UploadMoment} {moment : UploadMoment}
    (unfolds : first.Unfolds (later ++ moment :: earlier) last) :
    ∃ before after, first.Unfolds earlier before ∧ before.now = moment.instant ∧
      before.Happens moment.event after ∧ after.Unfolds later last := by
  -- On what came since: the latest moments stand in front.
  induction later generalizing last with
  | nil =>
      cases unfolds with
      | next before happens => exact ⟨_, _, before, rfl, happens, .start⟩
  | cons final others inductionHypothesis =>
      cases unfolds with
      | next before happens =>
          obtain ⟨atMoment, after, isBefore, isInstant, atOnce, since⟩ :=
            inductionHypothesis before
          exact ⟨atMoment, after, isBefore, isInstant, atOnce, since.next happens⟩

/-! ## Steps that are due -/

theorem step?_of_pending (waiting : loop.phase = .waiting) (pending : loop.signalled = true) :
    loop.step? =
      some (loop.now,
        { loop with
          signalled := false
          phase := .quiet (loop.now + loop.sleepLength loop.quietPeriod) }) := by
  simp [step?, waiting, pending]

theorem step?_of_silent (waiting : loop.phase = .waiting) (silent : loop.signalled = false) :
    loop.step? =
      if loop.handles = 0 then some (loop.now, { loop with phase := .ended }) else none := by
  simp [step?, waiting, silent]

theorem step?_of_quiet (quiet : loop.phase = .quiet finish) :
    loop.step? =
      some (finish,
        { loop with
          now := finish
          signalled := false
          phase := .running (finish + loop.runLength loop.runs.length)
          runs := finish :: loop.runs }) := by
  simp [step?, quiet]

theorem step?_of_running (busy : loop.phase = .running finish) :
    loop.step? = some (finish, { loop with now := finish, phase := .waiting }) := by
  simp [step?, busy]

theorem step?_of_ended (ended : loop.phase = .ended) : loop.step? = none := by
  simp [step?, ended]

/-- Neither a quiet period nor a run is overdue. -/
def InTime (loop : UploadLoop) : Prop :=
  match loop.phase with
  | .quiet finish => loop.now ≤ finish
  | .running finish => loop.now ≤ finish
  | _ => True

/-- No handle gives a signal in the course of a log. -/
def Unprompted (log : List UploadMoment) : Prop :=
  ∀ moment ∈ log, moment.event ≠ .triggered

theorem Unprompted.append (later : Unprompted more) (earlier : Unprompted log) :
    Unprompted (more ++ log) := by
  intro moment member
  rcases List.mem_append.mp member with inLater | inEarlier
  · exact later moment inLater
  · exact earlier moment inEarlier

/-- A quiet period passes, what was signalled during it is taken back, and a run starts. -/
theorem unfolds_of_quiet
    (quiet : loop.phase = .quiet finish)
    (inTime : loop.now ≤ finish)
    (steps : loop.step? = some (due, next)) :
    ∃ more, loop.Unfolds more next ∧ Unprompted more ∧ UploadMoment.starts more = [finish] := by
  have passes : loop.Happens (.waited (finish - loop.now)) { loop with now := finish } := by
    have allowed : loop.Allows (finish - loop.now) := by
      refine Or.inr ?_
      intro due next steps
      rw [step?_of_quiet quiet] at steps
      cases steps
      exact Nat.le_of_eq (Nat.add_sub_cancel' inTime)
    have passed := Happens.waited allowed
    rwa [Nat.add_sub_cancel' inTime] at passed
  have atEnd := Unfolds.start.next passes
  rw [step?_of_quiet quiet] at steps
  cases steps
  cases pending : loop.signalled with
  | false =>
      have fires := atEnd.next
        (.fired (by exact quiet) (by exact pending) (by exact step?_of_quiet (by exact quiet)))
      exact ⟨_, fires, by simp [Unprompted], rfl⟩
  | true =>
      -- The executed step takes the signal back and starts the run at once; here it is two.
      have drains := atEnd.next (.drained (by exact quiet) (by exact pending))
      have fires := drains.next
        (.fired (by exact quiet) rfl (by exact step?_of_quiet (by exact quiet)))
      exact ⟨_, fires, by simp [Unprompted], rfl⟩

/-- A step that becomes due is a course of events. -/
theorem unfolds_of_step?
    (inTime : loop.InTime)
    (steps : loop.step? = some (due, next)) :
    ∃ more, loop.Unfolds more next ∧ Unprompted more ∧ next.InTime ∧ next.now = due := by
  cases isPhase : loop.phase with
  | waiting =>
      cases pending : loop.signalled with
      | true =>
          have isNext := step?_of_pending isPhase pending
          rw [isNext] at steps
          cases steps
          exact ⟨_, Unfolds.start.next (.received isPhase pending isNext), by simp [Unprompted],
            by simp [InTime], rfl⟩
      | false =>
          have isNext := step?_of_silent isPhase pending
          rw [isNext] at steps
          split at steps
          · next abandoned =>
              rw [if_pos abandoned] at isNext
              cases steps
              exact ⟨_, Unfolds.start.next (.closed isPhase pending isNext), by simp [Unprompted],
                by simp [InTime], rfl⟩
          · cases steps
  | quiet finish =>
      rw [InTime, isPhase] at inTime
      obtain ⟨more, unfolds, unprompted, -⟩ := unfolds_of_quiet isPhase inTime steps
      rw [step?_of_quiet isPhase] at steps
      cases steps
      exact ⟨more, unfolds, unprompted, by simp [InTime], rfl⟩
  | running finish =>
      rw [InTime, isPhase] at inTime
      rw [step?_of_running isPhase] at steps
      cases steps
      have allowed : loop.Allows (due - loop.now) := Or.inl ⟨due, isPhase⟩
      have passes := Unfolds.start.next (Happens.waited allowed)
      rw [Nat.add_sub_cancel' inTime] at passes
      exact ⟨_, passes.next (.finished (by exact isPhase)), by simp [Unprompted],
        by simp [InTime], rfl⟩
  | ended =>
      rw [step?_of_ended isPhase] at steps
      cases steps

/-- Time passes where no step is due. -/
theorem unfolds_of_not_due
    {instant : Nat}
    (notPast : loop.now ≤ instant)
    (notDue : ∀ due next, loop.step? = some (due, next) → instant < due) :
    ∃ more, loop.Unfolds more { loop with now := instant } ∧ Unprompted more ∧
      InTime { loop with now := instant } := by
  have allowed : loop.Allows (instant - loop.now) := by
    refine Or.inr ?_
    intro due next steps
    have later := notDue due next steps
    omega
  have passes := Unfolds.start.next (Happens.waited allowed)
  rw [Nat.add_sub_cancel' notPast] at passes
  refine ⟨_, passes, by simp [Unprompted], ?_⟩
  cases isPhase : loop.phase with
  | waiting => simp [InTime]
  | quiet finish =>
      have later := notDue _ _ (step?_of_quiet isPhase)
      simpa [InTime] using Nat.le_of_lt later
  | running finish =>
      have later := notDue _ _ (step?_of_running isPhase)
      simpa [InTime] using Nat.le_of_lt later
  | ended => simp [InTime]

theorem advanceTo_of_due
    {instant : Nat}
    (steps : loop.step? = some (due, next))
    (isDue : due ≤ instant) :
    loop.advanceTo instant = next.advanceTo instant := by
  rw [advanceTo]
  split
  · next noStep =>
      rw [steps] at noStep
      cases noStep
  · next isStep =>
      rw [steps] at isStep
      cases isStep
      rw [if_pos isDue]

theorem advanceTo_of_not_due
    {instant : Nat}
    (notPast : loop.now ≤ instant)
    (notDue : ∀ due next, loop.step? = some (due, next) → instant < due) :
    loop.advanceTo instant = { loop with now := instant } := by
  rw [advanceTo]
  split
  · rw [Nat.max_eq_right notPast]
  · next due next steps =>
      rw [if_neg (Nat.not_le.mpr (notDue due next steps)), Nat.max_eq_right notPast]

/-- Letting time pass up to an instant is a course of events without a signal. -/
theorem unfolds_advanceTo
    {instant : Nat}
    (inTime : loop.InTime)
    (notPast : loop.now ≤ instant) :
    ∃ more, loop.Unfolds more (loop.advanceTo instant) ∧ Unprompted more ∧
      (loop.advanceTo instant).InTime := by
  -- Along the steps that are due; time only passes behind the last of them.
  induction loop using advanceTo.induct instant with
  | case1 loop noStep =>
      have notDue : ∀ due next, loop.step? = some (due, next) → instant < due := by
        intro due next steps
        rw [noStep] at steps
        cases steps
      rw [advanceTo_of_not_due notPast notDue]
      exact unfolds_of_not_due notPast notDue
  | case2 loop due next steps isDue inductionHypothesis =>
      obtain ⟨first, step, unpromptedStep, nextInTime, isDueInstant⟩ :=
        unfolds_of_step? inTime steps
      obtain ⟨more, unfolds, unprompted, stillInTime⟩ :=
        inductionHypothesis nextInTime (by rwa [isDueInstant])
      rw [advanceTo_of_due steps isDue]
      exact ⟨more ++ first, step.trans unfolds, unprompted.append unpromptedStep, stillInTime⟩
  | case3 loop due next steps notDueYet =>
      have notDue : ∀ due next, loop.step? = some (due, next) → instant < due := by
        intro due next isStep
        rw [steps] at isStep
        cases isStep
        exact Nat.not_le.mp notDueYet
      rw [advanceTo_of_not_due notPast notDue]
      exact unfolds_of_not_due notPast notDue

end UploadLoop

end BlockCustody
