import TermPilot.Fault

/-!
# Timing of a replay

The pauses made while recorded events are sent.
-/

namespace TermPilot

/-- The pauses of a replay, in seconds. -/
structure ReplayTiming where
  /-- The pause after a batch of keys. -/
  batchPause : Float
  /-- The pause after each key of a batch; if it is zero, a batch is sent as one text. -/
  keyDelay : Float

namespace ReplayTiming

/-- A timing without negative pauses. -/
def make (batchPause keyDelay : Float) : Except Fault ReplayTiming :=
  if batchPause < 0 || keyDelay < 0 then .error .negativePause else .ok ⟨batchPause, keyDelay⟩

/-- Batches sent as one text. -/
def batched (batchPause : Float) : Except Fault ReplayTiming := make batchPause 0

/-- Keys sent one by one. -/
def perKey (keyDelay : Float) : Except Fault ReplayTiming := make keyDelay keyDelay

end ReplayTiming

end TermPilot
