import TermPilot.Mouse.Encode

/-!
# Recorded events

What a recording of someone's input consists of.
-/

namespace TermPilot

/-- A recorded event. -/
inductive RecordedEvent where
  /-- Keys pressed one after the other, by name. -/
  | keys (names : List Text)
  /-- A button went down. -/
  | press (button : MouseButton) (col row : Int)
  /-- The button went up. -/
  | release (col row : Int)
  /-- The mouse moved with a button held. -/
  | drag (button : MouseButton) (col row : Int)
  /-- The wheel moved. -/
  | scroll (direction : ScrollDirection) (col row : Int)
  /-- The mouse moved. -/
  | move (col row : Int)
  /-- A text was pasted. -/
  | paste (text : Text)
  /-- The terminal got a new size. -/
  | resize (cols rows : Int)
  /-- The terminal got (`true`) or lost the focus. -/
  | focus (gained : Bool)
deriving Repr, DecidableEq

/-- A line of a recording that was dropped. -/
structure RecordingWarning where
  /-- The kind of directive. -/
  kind : Text
  /-- The number of the line, counted from one. -/
  lineNumber : Nat
  /-- The line without the blanks around it. -/
  line : Text
deriving Repr, DecidableEq

/-- The message of a warning. -/
def RecordingWarning.message (w : RecordingWarning) : String :=
  s!"malformed {Text.string w.kind} event"

/-- Why a recording could not be read to its end. -/
inductive RecordingError where
  /-- A coordinate or size has too many digits. -/
  | numeralTooLong (digits : Nat)
  /-- The content of a paste is not ASCII. -/
  | pasteNotAscii
deriving Repr, DecidableEq

end TermPilot
