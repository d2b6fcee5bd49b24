import TermPilot.Files.Store
import TermPilot.Terminal.Scripted

/-!
# Scripted files

Files for tests that change while time passes: what another program would write is appended during
given pauses.
-/

namespace TermPilot

/-- Something that is appended to a file. -/
structure ScheduledWrite where
  /-- The number of the pause in which it happens, counted from one. -/
  pause : Nat
  /-- The file. -/
  path : Path
  /-- What is appended. -/
  bytes : List UInt8

/-- A scripted bench with files. -/
structure ScriptedFiles where
  /-- The clock and the log. -/
  bench : Scripted
  /-- The files as they are now. -/
  files : FileStore
  /-- What is still to be appended. -/
  schedule : List ScheduledWrite := []
  /-- The number of pauses so far. -/
  pauses : Nat := 0

namespace ScriptedFiles

/-- The files after the writes of a pause; a write that is not possible is left out. -/
def after (pause : Nat) (schedule : List ScheduledWrite) (files : FileStore) : FileStore :=
  schedule.foldl (fun files write =>
    if write.pause = pause then ((files.appendTo write.path write.bytes).toOption).getD files
    else files) files

/-- Does something on the scripted bench. -/
def onBench {α : Type} (act : Act Fault Scripted α) : Act Fault ScriptedFiles α :=
  ExceptT.mk fun s =>
    let (outcome, bench) := act.run s.bench
    (outcome, { s with bench })

/-- Lets time pass, in which files change. -/
def pause (seconds : Float) : Act Fault ScriptedFiles Unit := do
  onBench (Scripted.pause seconds)
  modify fun s =>
    { s with pauses := s.pauses + 1, files := after (s.pauses + 1) s.schedule s.files }

/-- The files as they are now. -/
def look : Act Fault ScriptedFiles FileStore := do return (← get).files

/-- The clock and the log. -/
def asBench : Bench ScriptedFiles where
  now := onBench Scripted.readClock
  sleep := pause
  log := fun record => onBench (Scripted.keep record)

end ScriptedFiles

end TermPilot
