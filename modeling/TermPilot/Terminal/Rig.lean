import TermPilot.Fault
import TermPilot.Log.Record
import TermPilot.Screen.Escape

/-!
# The rig of a session

A session works on a terminal, with a clock and a log. The library knows these only by what they
can do, so that a session can be run on a real terminal as well as on a scripted one. `σ` is the
state of the world that they share.
-/

namespace TermPilot

/-- A piece of work on the world `σ`. It changes the world also when it fails with an `ε`. -/
abbrev Act (ε σ : Type) := ExceptT ε (StateM σ)

namespace Act

variable {ε σ α : Type}

/-- An outcome as a value. -/
def observe (act : Act ε σ α) : Act ε σ (Except ε α) := ExceptT.lift act.run

/-- An outcome given as a value. -/
def settle : Except ε α → Act ε σ α
  | .ok value => return value
  | .error fault => throw fault

/-- Does something and then something last, also if the first fails. The failure of what is done
last hides one before it. -/
def andAtLast (act : Act ε σ α) (last : Act ε σ Unit) : Act ε σ α := do
  let outcome ← observe act
  last
  settle outcome

end Act

/-- A clock and a log. -/
structure Bench (σ : Type) where
  /-- Reads the clock, in seconds. -/
  now : Act Fault σ Float
  /-- Lets a number of seconds pass. -/
  sleep : Float → Act Fault σ Unit
  /-- Writes a record to the log. -/
  log : LogRecord → Act Fault σ Unit

/-- A terminal, a clock and a log. -/
structure Rig (σ : Type) extends Bench σ where
  /-- Writes encoded input to the program in the terminal. -/
  send : Text → Act Fault σ Unit
  /-- The screen as text with its escape sequences. -/
  capture : Act Fault σ Text
  /-- Gives the terminal a size in columns and rows. -/
  resize : Int → Int → Act Fault σ Unit

/-- The screen as text with and without its escape sequences. -/
def Rig.captureScreen {σ : Type} (rig : Rig σ) : Act Fault σ (Text × Text) := do
  return Screen.withVisible (← rig.capture)

end TermPilot
