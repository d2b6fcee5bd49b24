import TermPilot.Terminal.Rig

/-!
# Rapid sampling

Samples taken back to back for a while, without pauses, so that short-lived states are caught.
-/

namespace TermPilot.Wait

variable {σ α : Type}

/-- Takes samples for a window that began at `start`, each with the time of its taking; `limit` is
the greatest number of samples, for clocks that stand still. -/
def sampleFrom (bench : Bench σ) (sample : Act Fault σ α) (start window : Float) :
    Nat → Act Fault σ (List (Float × α))
  | 0 => throw .attemptsExhausted
  | limit + 1 => do
    let elapsed := (← bench.now) - start
    if elapsed > window then return []
    let current ← sample
    let later ← sampleFrom bench sample start window limit
    return (elapsed, current) :: later

/-- Takes samples until the window is over. -/
def sampleRapidly (bench : Bench σ) (sample : Act Fault σ α) (window : Float)
    (limit : Nat := 100000) : Act Fault σ (List (Float × α)) := do
  let start ← bench.now
  sampleFrom bench sample start window limit

end TermPilot.Wait
