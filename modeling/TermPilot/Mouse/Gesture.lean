import TermPilot.Mouse.Encode
import TermPilot.Terminal.Script

/-!
# Mouse gestures

Clicks and drags: several mouse events with a short pause between them.
-/

namespace TermPilot.Mouse

/-- The seconds between two events of a gesture. -/
def gesturePause : Float := 0.01

/-- A button goes down and up at one position. -/
def click (button : MouseButton) (col row : Int) : Script :=
  .sequence [.sendOutcome (press button col row), .of [.pause gesturePause],
    .sendOutcome (release button col row)]

/-- A coordinate on the way from `start` to `stop`, worked out in doubles and cut off to a whole
number; `none` when that is beyond all doubles. -/
def between? (start stop : Int) (part : Float) : Option Int := do
  let distance ← Double.ofInt (stop - start)
  let origin ← Double.ofInt start
  Double.truncate? (origin + distance * part)

/-- The motion of one of the steps of a drag. -/
def dragStep (button : MouseButton) (start stop : Int × Int) (steps step : Nat) : Script :=
  let position := do
    let part ← Double.ofRatio false step steps
    let col ← between? start.1 stop.1 part
    let row ← between? start.2 stop.2 part
    return (col, row)
  match position with
  | some (col, row) =>
    (Script.sendOutcome (drag button col row)).andThen (.of [.pause gesturePause])
  | none => .fail .beyondDoubles

/-- A button goes down at `start`, the mouse moves in steps to `stop`, and the button goes up. -/
def dragInSteps (button : MouseButton) (start stop : Int × Int) (steps : Int) : Script :=
  if steps < 1 then .fail .noDragSteps
  else
    let motion := (List.range steps.toNat).map fun i =>
      dragStep button start stop steps.toNat (i + 1)
    .sequence [.sendOutcome (press button start.1 start.2), .of [.pause gesturePause],
      .sequence motion, .sendOutcome (release button stop.1 stop.2)]

/-- A drag straight to its end. -/
def dragTo (button : MouseButton) (start stop : Int × Int) : Script :=
  dragInSteps button start stop 1

end TermPilot.Mouse
