import TermPilot.Files.Store
import TermPilot.Terminal.Names
import TermPilot.Wait.Poll

/-!
# Debug logs

A program under test can tell about its inner state by lines in a file. A test makes an empty file,
has the program append to it, and waits for a line.
-/

namespace TermPilot.DebugLog

variable {σ : Type}

/-- The seconds between two looks at a log. -/
def interval : Float := 0.01

/-- Makes an empty log of a given name; an old file of that name is removed. -/
def create (files : FileStore) (directory : Path) (name : Text) :
    Except FileError (FileStore × Path) := do
  let path := directory.child (name ++ ".log".toList)
  let cleared ← match files.remove path with
    | .ok cleared => pure cleared
    | .error .notFound => pure files
    | .error error => throw error
  return (← cleared.write path [], path)

/-- The lines of a log. A log that cannot be read has none, but its path has to be one. -/
def lines (files : FileStore) (path : Path) : Except FileError (List Text) :=
  match files.read path with
  | .ok bytes => .ok (Text.boundedLines (Files.markedText bytes))
  | .error .nulInPath => .error .nulInPath
  | .error _ => .ok []

/-- Removes a log, if it is there. -/
def cleanUp (files : FileStore) (path : Path) : Except FileError FileStore :=
  match files.remove path with
  | .error .notFound => .ok files
  | outcome => outcome

/-- The first line of a log that satisfies a condition, if there is one. `look` gives the files as
they are at the time. -/
def findLine (look : Act Fault σ FileStore) (path : Path) (accept : Text → Bool) :
    Act Fault σ (Option Text) := do
  let found ← Act.settle ((lines (← look) path).mapError Fault.file)
  return found.find? accept

/-- Waits for a line that satisfies a condition; gives the first such line, or none if the time runs
out. `attempts` is the greatest number of looks, for clocks that stand still. -/
def waitForLine (bench : Bench σ) (look : Act Fault σ FileStore) (path : Path)
    (accept : Text → Bool) (timeout : Float) (attempts : Nat := 10000000) :
    Act Fault σ (Option Text) := do
  let describe (line : Option Text) : Text × Option Text := (line.getD [], none)
  let bounds : WaitBounds := { timeout, interval, attempts }
  match ← Wait.await bench (findLine look path accept) (fun line => .ok line.isSome) describe
      bounds with
  | .ok line => return line
  | .error _ => do
    let shown := Text.string path.text
    let seconds := Double.fixed 2 timeout
    bench.log (.debug "debug_log" s!"No matching line in {shown} after {seconds}s")
    return none

end TermPilot.DebugLog
