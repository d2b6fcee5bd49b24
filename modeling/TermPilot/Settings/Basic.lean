import TermPilot.Log.Level
import TermPilot.Replay.Timing

/-!
# Settings

What a session uses where a scenario says nothing: pauses, the time and the interval of waits, the
size of the terminal and the level of the log.
-/

namespace TermPilot

/-- The size of a terminal. -/
structure TerminalSize where
  /-- The number of columns. -/
  cols : Int := 80
  /-- The number of rows. -/
  rows : Int := 24
deriving Repr, DecidableEq

/-- The settings of a session; durations are in seconds. -/
structure Settings where
  /-- The pause after a batch of replayed keys. -/
  batchPause : Float := 0
  /-- The pause after each replayed key. -/
  keyDelay : Float := 0
  /-- How long a wait may take. -/
  waitTimeout : Float := 5
  /-- The time between two looks at the screen. -/
  pollInterval : Float := 0.05
  /-- The size of the terminal. -/
  terminal : TerminalSize := {}
  /-- The name of the level of the log. -/
  logLevel : Text := "INFO".toList

namespace Settings

/-- The pauses of a replay. -/
def timing (s : Settings) : Except Fault ReplayTiming :=
  ReplayTiming.make s.batchPause s.keyDelay

/-- The level of the log, if its name is known. -/
def level? (s : Settings) : Option Int := LogLevel.ofName? s.logLevel

/-- The names of log levels that settings may use. -/
def levelNames : List Text := ["DEBUG", "INFO", "WARNING", "ERROR", "CRITICAL"].map String.toList

end Settings

end TermPilot
