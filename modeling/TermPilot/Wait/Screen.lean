import TermPilot.Text.Blank
import TermPilot.Wait.Poll

/-!
# Waiting for a screen

Waits for a condition on the screen of a terminal, either on its raw text or on its raw and visible
text together.
-/

namespace TermPilot.Wait

variable {σ : Type}

/-- Waits for the raw text of the screen. -/
def forRaw (rig : Rig σ) (accept : Text → Except Fault Bool) (bounds : WaitBounds) :
    Act Fault σ (Except (WaitTimeout Text) Text) :=
  await rig.toBench rig.capture accept (fun raw => (raw, none)) bounds

/-- Waits for the raw and the visible text of the screen. -/
def forScreen (rig : Rig σ) (accept : Text × Text → Except Fault Bool) (bounds : WaitBounds) :
    Act Fault σ (Except (WaitTimeout (Text × Text)) (Text × Text)) :=
  await rig.toBench rig.captureScreen accept (fun (raw, clean) => (raw, some clean)) bounds

/-- Waits until the visible text contains `needle`. -/
def forVisible (rig : Rig σ) (needle : Text) (bounds : WaitBounds) :
    Act Fault σ (Except (WaitTimeout (Text × Text)) (Text × Text)) :=
  forScreen rig (fun (_, clean) => .ok (Text.occursIn needle clean)) bounds

/-- The seconds that a marker is waited for. -/
def markerTimeout : Float := 5

/-- Whether a line of the visible text is a marker, apart from blanks around it. The line on which
the command is echoed holds more than the marker. -/
def showsMarker (marker clean : Text) : Bool :=
  (Text.splitOn '\n' clean).any fun line => Text.trim line == marker

/-- Has the shell in the terminal print a marker and waits until it is displayed. -/
def forMarker (rig : Rig σ) (marker : Text) (bounds : WaitBounds) : Act Fault σ Bool := do
  rig.send ("printf '".toList ++ marker ++ "\\n'\n".toList)
  match ← forScreen rig (fun (_, clean) => .ok (showsMarker marker clean)) bounds with
  | .ok _ => return true
  | .error _ => do
    let seconds := Double.fixed 1 bounds.timeout
    rig.log (.warning "wait"
      s!"Ready marker {Text.string marker} did not appear within {seconds}s")
    return false

/-- The seconds that a terminal gets to repaint. -/
def briefPause : Float := 0.3

end TermPilot.Wait
