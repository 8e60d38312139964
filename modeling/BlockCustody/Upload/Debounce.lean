/-!
Contract: uploads that wait for storage to become quiet.

Owns:
- the loop that waits for a signal, lets a quiet period pass and runs an upload;
- signals, of which at most one is pending, and the handles that give them;
- the passing of time up to an instant, with every step due by then.

Does not own: what an upload does, and how long a sleep that was asked for lasts. Time is
counted in milliseconds.
-/

namespace BlockCustody

/-- What the upload loop is doing, and until when. -/
inductive UploadPhase where
  | waiting
  | quiet (finish : Nat)
  | running (finish : Nat)
  | ended
deriving DecidableEq, Repr

/-- The upload loop at an instant. The timer decides how long it sleeps where it asks for a
quiet period. `runs` holds the starts of all runs so far, the latest first. -/
structure UploadLoop where
  quietPeriod : Nat
  sleepLength : Nat → Nat
  runLength : Nat → Nat
  now : Nat
  handles : Nat
  signalled : Bool
  phase : UploadPhase
  runs : List Nat

namespace UploadLoop

/-- The loop when it is started, with one handle. `sleepLength` says how long a sleep
lasts that is asked to last so long, and `runLength` how long each run takes, counting
from zero. -/
def start (quietPeriod : Nat) (sleepLength runLength : Nat → Nat) : UploadLoop :=
  { quietPeriod
    sleepLength
    runLength
    now := 0
    handles := 1
    signalled := false
    phase := .waiting
    runs := [] }

/-! ## What handles do -/

/-- Signals a change. A signal that is already pending absorbs it. -/
def trigger (loop : UploadLoop) : UploadLoop :=
  { loop with signalled := true }

def cloneHandle (loop : UploadLoop) : UploadLoop :=
  { loop with handles := loop.handles + 1 }

def dropHandle (loop : UploadLoop) : UploadLoop :=
  { loop with handles := loop.handles - 1 }

/-! ## What the loop does -/

/-- The next step of the loop, and the instant it is due at. A pending signal
starts a quiet period; the end of the quiet period takes back every signal given
during it and starts a run; when no signal can come any more the loop ends. -/
def step? (loop : UploadLoop) : Option (Nat × UploadLoop) :=
  match loop.phase with
  | .waiting =>
      if loop.signalled then
        some (loop.now,
          { loop with
            signalled := false
            phase := .quiet (loop.now + loop.sleepLength loop.quietPeriod) })
      else if loop.handles = 0 then some (loop.now, { loop with phase := .ended })
      else none
  | .quiet finish =>
      some (finish,
        { loop with
          now := finish
          signalled := false
          phase := .running (finish + loop.runLength loop.runs.length)
          runs := finish :: loop.runs })
  | .running finish => some (finish, { loop with now := finish, phase := .waiting })
  | .ended => none

/-- A bound on the steps the loop can take without a further signal. -/
def stepsLeft (loop : UploadLoop) : Nat :=
  (if loop.signalled then 4 else 0) +
    match loop.phase with
    | .ended => 0
    | .waiting => 1
    | .running _ => 2
    | .quiet _ => 3

theorem stepsLeft_lt_of_step?
    {loop next : UploadLoop}
    {due : Nat}
    (steps : loop.step? = some (due, next)) :
    next.stepsLeft < loop.stepsLeft := by
  unfold step? at steps
  split at steps
  · rename_i waiting
    split at steps
    · rename_i signalled
      obtain ⟨-, rfl⟩ := Prod.mk.inj (Option.some.inj steps)
      simp [stepsLeft, waiting, signalled]
    · split at steps
      · obtain ⟨-, rfl⟩ := Prod.mk.inj (Option.some.inj steps)
        simp [stepsLeft, waiting]
      · cases steps
  · rename_i quiet
    obtain ⟨-, rfl⟩ := Prod.mk.inj (Option.some.inj steps)
    simp only [stepsLeft, quiet, Bool.false_eq_true, if_false]
    omega
  · rename_i running
    obtain ⟨-, rfl⟩ := Prod.mk.inj (Option.some.inj steps)
    simp [stepsLeft, running]
  · cases steps

/-- Lets time pass up to an instant, taking every step due by then. -/
def advanceTo (loop : UploadLoop) (instant : Nat) : UploadLoop :=
  match _steps : loop.step? with
  | none => { loop with now := max loop.now instant }
  | some (due, next) =>
      if due ≤ instant then next.advanceTo instant
      else { loop with now := max loop.now instant }
termination_by loop.stepsLeft
decreasing_by exact stepsLeft_lt_of_step? _steps

/-- Takes every step that is due now. -/
def settle (loop : UploadLoop) : UploadLoop :=
  loop.advanceTo loop.now

/-- Lets the time pass that a sleep of this span lasts. -/
def sleep (loop : UploadLoop) (span : Nat) : UploadLoop :=
  loop.advanceTo (loop.now + loop.sleepLength span)

def hasEnded (loop : UploadLoop) : Bool :=
  loop.phase == .ended

end UploadLoop

end BlockCustody
