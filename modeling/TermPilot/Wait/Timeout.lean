import TermPilot.Number.Decimal

/-!
# Timeouts

What a wait reports when its time runs out before its condition holds.
-/

namespace TermPilot

/-- A wait that ran out of time. -/
structure WaitTimeout (α : Type) where
  /-- The seconds that have passed. -/
  elapsed : Float
  /-- The seconds that were allowed. -/
  timeout : Float
  /-- The last sample as text. -/
  lastRaw : Text
  /-- The visible text of the last sample, if it is a screen. -/
  lastClean : Option Text
  /-- The last sample. -/
  lastSample : α

namespace WaitTimeout

/-- The number of characters of the last screen that a message shows. -/
def shownCharacters : Nat := 400

/-- The message of a timeout, with the end of the last screen. -/
def message {α : Type} (t : WaitTimeout α) : String :=
  let elapsed := Double.fixed 2 t.elapsed
  let timeout := Double.fixed 2 t.timeout
  let screen := Text.string (Text.takeEnd shownCharacters (t.lastClean.getD t.lastRaw))
  s!"Condition not met after {elapsed}s (timeout {timeout}s). Last screen:\n{screen}"

end WaitTimeout

end TermPilot
