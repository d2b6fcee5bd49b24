import TermPilot.Emulator.Screen
import TermPilot.Text.Utf8

/-!
# Streams

A program's output, byte by byte, as an emulated terminal takes it in. Characters and control
sequences may be cut anywhere between two pieces of output. A control sequence that cannot be
obeyed ends a piece: what follows it in the piece is lost, and the answers that are not yet given
wait for the next piece.
-/

namespace TermPilot.Emulator

/-- An emulated terminal. -/
structure Stream where
  /-- The screen. -/
  screen : Screen
  /-- Where the reading of commands stands. -/
  reading : Reading := .ground
  /-- Where the reading of characters stands. -/
  decoding : Text.Utf8.State := none
  /-- The answers that are not yet given. -/
  pending : Text := []

namespace Stream

/-- Takes in a character. -/
def feedChar (t : Stream) (c : Char) : Stream × Except Refusal Unit :=
  match t.reading.read c with
  | .error refusal => ({ t with reading := .ground }, .error refusal)
  | .ok (reading, none) => ({ t with reading }, .ok ())
  | .ok (reading, some command) =>
    match t.screen.perform command with
    | (screen, .ok answer) =>
      ({ t with screen, reading, pending := t.pending ++ answer }, .ok ())
    | (screen, .error refusal) => ({ t with screen, reading := .ground }, .error refusal)

/-- Takes in characters up to a refusal. -/
def feedText (t : Stream) : Text → Stream × Except Refusal Unit
  | [] => (t, .ok ())
  | c :: rest =>
    match t.feedChar c with
    | (t, .ok ()) => t.feedText rest
    | (t, .error refusal) => (t, .error refusal)

/-- Takes in a piece of output; gives the terminal and its answers. -/
def feed (t : Stream) (bytes : List UInt8) : Stream × Except Refusal Text :=
  let (reports, decoding) := Text.Utf8.run t.decoding bytes
  match { t with decoding }.feedText (reports.map Text.Utf8.Report.charOrMark) with
  | (t, .ok ()) => ({ t with pending := [] }, .ok t.pending)
  | (t, .error refusal) => (t, .error refusal)

end Stream

end TermPilot.Emulator
