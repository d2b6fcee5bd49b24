import TermPilot.Fault
import TermPilot.Terminal.Sequence

/-!
# Encoding of mouse events

Every event is `CSI < code ; column ; row` followed by `M`, or by `m` for a release. Positions
count from zero in this library and from one in the sequences, where they are written in decimal
digits: a column or a row that cannot be written has no sequence. Motion adds 32 to the code of the
button held, and the wheel has codes of its own.
-/

namespace TermPilot

/-- A mouse button. -/
inductive MouseButton where
  | left
  | middle
  | right
deriving Repr, DecidableEq

/-- A direction of the wheel. -/
inductive ScrollDirection where
  | up
  | down
  | left
  | right
deriving Repr, DecidableEq

/-- The code of a button. -/
def MouseButton.code : MouseButton → Nat
  | .left => 0
  | .middle => 1
  | .right => 2

/-- The buttons by name. -/
def MouseButton.words : List (String × MouseButton) :=
  [("left", .left), ("middle", .middle), ("right", .right)]

/-- The button of a name. -/
def MouseButton.ofWord? (word : Text) : Option MouseButton :=
  (words.find? fun (known, _) => known.toList = word).map Prod.snd

/-- The name of a button. -/
def MouseButton.name : MouseButton → String
  | .left => "left"
  | .middle => "middle"
  | .right => "right"

/-- The code of a wheel direction. -/
def ScrollDirection.code : ScrollDirection → Nat
  | .up => 64
  | .down => 65
  | .left => 66
  | .right => 67

/-- The wheel directions by name. -/
def ScrollDirection.words : List (String × ScrollDirection) :=
  [("up", .up), ("down", .down), ("left", .left), ("right", .right)]

/-- The wheel direction of a name. -/
def ScrollDirection.ofWord? (word : Text) : Option ScrollDirection :=
  (words.find? fun (known, _) => known.toList = word).map Prod.snd

/-- The name of a wheel direction. -/
def ScrollDirection.name : ScrollDirection → String
  | .up => "up"
  | .down => "down"
  | .left => "left"
  | .right => "right"

namespace Mouse

/-- What is added to a button's code while the mouse moves. -/
def motion : Nat := 32

/-- The code that stands for no button. -/
def noButton : Nat := 3

/-- A column or a row that counts from zero, as it is written in a sequence. -/
def coordinate (place : Int) : Except Fault Text :=
  (Numeral.write (place + 1)).mapError Fault.unwritable

/-- The sequence of a code and a position that counts from zero. -/
def sequence (code : Nat) (col row : Int) (final : String) : Except Fault Text := do
  let shownCol := Text.string (← coordinate col)
  let shownRow := Text.string (← coordinate row)
  return Terminal.controlSequence s!"<{code};{shownCol};{shownRow}" final

/-- A button goes down. -/
def press (button : MouseButton) (col row : Int) : Except Fault Text :=
  sequence button.code col row "M"

/-- A button goes up. -/
def release (button : MouseButton) (col row : Int) : Except Fault Text :=
  sequence button.code col row "m"

/-- The mouse moves with a button held. -/
def drag (button : MouseButton) (col row : Int) : Except Fault Text :=
  sequence (button.code + motion) col row "M"

/-- The mouse moves with no button held. -/
def move (col row : Int) : Except Fault Text := sequence (motion + noButton) col row "M"

/-- The wheel moves by one notch. -/
def scroll (direction : ScrollDirection) (col row : Int) : Except Fault Text :=
  sequence direction.code col row "M"

end Mouse

end TermPilot
