import TermPilot.Dump.Report

/-!
# The command line

The program prints what a command printed under a dump, and ends with the status of the command.
Its words are the command. Kitty itself is started by the caller, with the words that
`Dump.wrapped` gives for the command, and its dump comes in as the input of the program.
-/

open TermPilot

/-- All bytes of a stream. -/
partial def readAll (stream : IO.FS.Stream) (before : List UInt8) : IO (List UInt8) := do
  let bytes ← stream.read 65536
  if bytes.isEmpty then return before else readAll stream (before ++ bytes.toList)

/-- Answers a request, with the dump from the input if it takes one. -/
def main (words : List String) : IO UInt32 := do
  let request := Dump.Request.ofWords (words.map String.toList)
  let report ← match request.immediate? with
    | some report => pure report
    | none => do
      let output ← readAll (← IO.getStdin) []
      pure (Dump.Report.ofResult { output })
  (← IO.getStderr).putStr (Text.string report.errors)
  let stdout ← IO.getStdout
  stdout.putStr (Text.string report.output)
  stdout.flush
  return (report.status % 256).toNat.toUInt32
