import TermPilot.Dump.Noise
import TermPilot.Dump.Reading
import TermPilot.Dump.Request
import TermPilot.Files.Contents
import TermPilot.Files.Error
import TermPilot.Launch.Program
import TermPilot.Log.Record

/-!
# Reports

What the program that runs a command under a dump writes, and the status that it ends with.
-/

namespace TermPilot.Dump

/-- What the program does at its end. -/
structure Report where
  /-- What it writes. -/
  output : Text := []
  /-- What it writes to its error stream. -/
  errors : Text := []
  /-- Its status. -/
  status : Int
deriving Repr, DecidableEq

/-- The status if the wrapped command did not tell one. -/
def missingStatus : Int := 1

/-- The line that tells how to call the program. -/
def usage : String := "usage: kitty-runner [-h] ...\n"

/-- The text that explains the program. -/
def help : String :=
  usage ++ "\nRun a command under kitty --dump-commands=yes and print only its visible text.\n" ++
    "\npositional arguments:\n  command     Command and arguments to run.\n" ++
    "\noptions:\n  -h, --help  show this help message and exit\n" ++
    "\nExample: kitty-runner cargo test\n"

namespace Report

/-- The report of a request for help. -/
def helping : Report := { output := help.toList, status := 0 }

/-- The report of words that are not understood. -/
def refusing (reason : Text) : Report :=
  { errors := (usage ++ "kitty-runner: error: ").toList ++ reason ++ ['\n'], status := 2 }

/-- The report of an empty command. -/
def ofNothing : Report :=
  { errors := ("Usage: kitty-runner <command> [args...]\n" ++
      "Example: kitty-runner cargo test\n").toList
    status := 1 }

/-- The report if there is no kitty. -/
def withoutKitty : Report :=
  { errors := "kitty-runner: kitty is not installed or not on PATH\n".toList, status := 1 }

/-- The lines of what kitty wrote. -/
def linesOf (bytes : List UInt8) : List Text :=
  let parts := Text.splitOn '\n' (Files.markedText bytes)
  if parts.getLast? = some [] then parts.dropLast else parts

/-- Every line with its line feed. -/
def written (lines : List Text) : Text := lines.flatMap fun line => line ++ ['\n']

/-- The report on what kitty wrote. -/
def ofResult (result : ProgramResult) : Report :=
  let (text, status) := read (linesOf result.output)
  let errors := (linesOf result.errors).filter fun line => !isNoise line
  { output := if text.isEmpty then [] else written [text]
    errors := written (trimBlankLines errors)
    status := status.getD missingStatus }

/-- The report on a command, given what kitty wrote or why it did not start. Only a missing kitty is
reported. -/
def ofRun : Except FileError ProgramResult → Except FileError Report
  | .ok result => .ok (ofResult result)
  | .error .notFound => .ok withoutKitty
  | .error error => .error error

end Report

/-- The record of a command that is run. -/
def started (words : List Text) : LogRecord :=
  let shown := Text.string (Shell.command words)
  .debug "kitty_runner" s!"Running {shown} under kitty --dump-commands"

/-- The report of a request that needs no kitty. -/
def Request.immediate? : Request → Option Report
  | .help => some Report.helping
  | .refused reason => some (Report.refusing reason)
  | .run [] => some Report.ofNothing
  | .run _ => none

end TermPilot.Dump
