import TermPilot.Terminal.Rig

/-!
# Polling

A terminal repaints whenever it likes, so a screen taken right after an input may still be the old
one. A wait takes samples until one satisfies a condition. The time is looked at after each sample
that does not, so a wait may end up to one interval late, and it takes at least one sample.
-/

namespace TermPilot

variable {σ α : Type}

/-- The bounds of a wait. -/
structure WaitBounds where
  /-- The seconds after which a failing sample ends the wait. -/
  timeout : Float
  /-- The seconds between two samples. -/
  interval : Float := 0.05
  /-- The greatest number of samples, for clocks that stand still. -/
  attempts : Nat := 10000000

/-- How a wait ended. -/
inductive PollResult (α : Type) where
  /-- A sample satisfied the condition. -/
  | satisfied (sample : α)
  /-- The time was over after a sample that did not. -/
  | timedOut (elapsed : Float) (last : α)
  /-- The samples were used up. -/
  | exhausted

namespace Wait

/-- Takes up to the given number of samples, for a wait that began at `start`. -/
def pollFrom (bench : Bench σ) (sample : Act Fault σ α) (accept : α → Except Fault Bool)
    (start timeout interval : Float) : Nat → Act Fault σ (PollResult α)
  | 0 => return .exhausted
  | attempts + 1 => do
    let current ← sample
    if ← Act.settle (accept current) then return .satisfied current
    let elapsed := (← bench.now) - start
    if elapsed > timeout then return .timedOut elapsed current
    bench.sleep interval
    pollFrom bench sample accept start timeout interval attempts

/-- Takes samples until one satisfies the condition or the time is over. -/
def poll (bench : Bench σ) (sample : Act Fault σ α) (accept : α → Except Fault Bool)
    (bounds : WaitBounds) : Act Fault σ (PollResult α) := do
  let start ← bench.now
  pollFrom bench sample accept start bounds.timeout bounds.interval bounds.attempts

/-- The record of a wait that ran out of time. -/
def timedOutRecord (elapsed timeout : Float) : LogRecord :=
  let passed := Double.fixed 2 elapsed
  let allowed := Double.fixed 2 timeout
  .info "wait" s!"Wait timed out after {passed}s (timeout {allowed}s)"

/-- The sample that satisfies the condition, or a timeout, which the log is told about.
`describe` gives the text of a sample, and its visible text if it is a screen. -/
def await (bench : Bench σ) (sample : Act Fault σ α) (accept : α → Except Fault Bool)
    (describe : α → Text × Option Text) (bounds : WaitBounds) :
    Act Fault σ (Except (WaitTimeout α) α) := do
  match ← poll bench sample accept bounds with
  | .satisfied current => return .ok current
  | .exhausted => throw .attemptsExhausted
  | .timedOut elapsed last => do
    bench.log (timedOutRecord elapsed bounds.timeout)
    let (lastRaw, lastClean) := describe last
    return .error ⟨elapsed, bounds.timeout, lastRaw, lastClean, last⟩

/-- The sample of a wait, or its last one if it ran out of time. -/
def bestEffort : Except (WaitTimeout α) α → α
  | .ok sample => sample
  | .error timeout => timeout.lastSample

/-- The sample of a wait; running out of time is a fault. -/
def orFail (faultOf : WaitTimeout α → Fault) : Except (WaitTimeout α) α → Act Fault σ α
  | .ok sample => return sample
  | .error timeout => throw (faultOf timeout)

end Wait

end TermPilot
