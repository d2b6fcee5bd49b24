import TermPilot.Emulator.Render
import TermPilot.Emulator.Stream
import TermPilot.Fault
import TermPilot.Headless.Exit
import TermPilot.Log.Record
import TermPilot.Screen.Clean
import TermPilot.Settings.Basic

/-!
# Headless terminals

A terminal that needs no display: its program writes to an emulated screen, and dumps of the screen
look like those of a window. Until the program is started there is no channel to it; what needs the
channel then fails.
-/

namespace TermPilot

/-- The program in a terminal. -/
structure Child where
  /-- The number that the system reports for its end, if it has reported one. -/
  ending : Option Int
  /-- Whether a wait for its end is in vain. -/
  hangs : Bool := false
  /-- The signals that were sent to it. -/
  signals : List Int := []
deriving Repr, DecidableEq

/-- A terminal without display. -/
structure HeadlessTerminal where
  /-- Its size, as it was asked for. -/
  size : TerminalSize
  /-- Its screen, with the state of the program's output. -/
  stream : Emulator.Stream
  /-- Whether there is a channel to the program. -/
  attached : Bool := false
  /-- The program. -/
  child : Option Child := none

namespace HeadlessTerminal

/-- The signal that asks a program to end. -/
def terminationSignal : Int := 15

/-- A terminal for a command, which must not be empty. -/
def make (command : List Text) (size : TerminalSize) : Except Fault HeadlessTerminal :=
  if command.isEmpty then .error .emptyCommand
  else .ok { size, stream := { screen := .ofSize size.cols size.rows } }

/-- The greatest number of bytes that are taken in at once. -/
def pieceSize : Nat := 4096

/-- Takes in output of the program, piece by piece; gives the terminal and its answers. -/
def feed (t : HeadlessTerminal) (bytes : List UInt8) : HeadlessTerminal × Except Fault Text :=
  if bytes.isEmpty then (t, .ok [])
  else
    match t.stream.feed (bytes.take pieceSize) with
    | (stream, .error refusal) => ({ t with stream }, .error (.ofRefusal refusal))
    | (stream, .ok answers) =>
      let (t, later) := feed { t with stream } (bytes.drop pieceSize)
      (t, later.map fun later => answers ++ later)
termination_by bytes.length
decreasing_by
  have : bytes ≠ [] := by simpa [List.isEmpty_iff] using ‹¬ bytes.isEmpty›
  have := List.length_pos_iff.2 this
  simp only [List.length_drop, pieceSize]
  omega

/-- The place of the cursor, as column and row from zero on. -/
def cursor (t : HeadlessTerminal) : Int × Int := (t.stream.screen.x, t.stream.screen.y)

/-- The trimmed screen, and the terminal after it was read. -/
def capture (t : HeadlessTerminal) : Text × HeadlessTerminal :=
  let screen := t.stream.screen
  (Screen.cleanTrailing (Emulator.render screen.cells),
    { t with stream := { t.stream with screen := screen.useRows } })

/-- The trimmed screen with and without its escape sequences, and the terminal after it was read. -/
def captureScreen (t : HeadlessTerminal) : (Text × Text) × HeadlessTerminal :=
  let (raw, t) := t.capture
  (Screen.withVisible raw, t)

/-- The bytes that are written to the program. Nothing can be written also without a channel. -/
def send (t : HeadlessTerminal) (text : Text) : Except Fault (List UInt8) :=
  if t.attached || text.isEmpty then .ok (Text.Utf8.encode text) else .error .notStarted

/-- The record of a new size. -/
def resized (size : TerminalSize) : LogRecord :=
  .debug "headless" s!"Resized pty to {size.cols}x{size.rows}"

/-- Whether the system can tell a program of a number of columns or rows. -/
def isTellable (n : Int) : Bool := 0 ≤ n && n < 65536

/-- Gives the terminal a size; the program learns of it last. -/
def resize (t : HeadlessTerminal) (size : TerminalSize) : HeadlessTerminal × Except Fault Unit :=
  let screen := t.stream.screen.resize size.cols size.rows
  let t := { t with size, stream := { t.stream with screen } }
  let told : Except Fault Unit :=
    if !(isTellable size.cols && isTellable size.rows) then .error .sizeOutOfRange
    else if t.attached then .ok ()
    else .error .notStarted
  (t, told)

/-- The program, if it was started. -/
def program (t : HeadlessTerminal) : Except Fault Child :=
  match t.child with
  | some child => .ok child
  | none => .error .noProgram

/-- Whether the program runs, as far as the system has not reported its end. -/
def isRunning (t : HeadlessTerminal) : Except Fault Bool := do
  return (← t.program).ending.isNone

/-- Sends a signal to the program. -/
def terminate (t : HeadlessTerminal) (signal : Int) : Except Fault HeadlessTerminal := do
  let child ← t.program
  return { t with child := some { child with signals := child.signals ++ [signal] } }

/-- The end of the program. One that hangs is not waited for any longer. -/
def wait (t : HeadlessTerminal) : Except Fault ExitStatus := do
  let child ← t.program
  if child.hangs then throw .stillRunning
  else match child.ending with
    | some n => return ExitStatus.ofNumber n
    | none => throw .noEnding

end HeadlessTerminal

end TermPilot
