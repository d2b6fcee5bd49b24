import TermPilot.Terminal.Rig

/-!
# Waiting for a file
-/

namespace TermPilot.Wait

/-- The seconds between two looks for a file. -/
def filePause : Float := 0.05

/-- Looks for a file up to `retries` times with a pause after each look that finds none, and then
once more. -/
def forFile {σ : Type} (bench : Bench σ) (present : Act Fault σ Bool) : Nat → Act Fault σ Bool
  | 0 => present
  | retries + 1 => do
    if ← present then return true
    bench.sleep filePause
    forFile bench present retries

end TermPilot.Wait
