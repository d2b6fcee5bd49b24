import TermPilot.Terminal.Rig

/-!
# Scripts

Input that does not depend on the screen is worked out in advance as a list of actions. Working it
out may fail half way: then the actions before the failure are still carried out.
-/

namespace TermPilot

/-- One thing done to a terminal. -/
inductive Action where
  /-- Writes encoded input. -/
  | send (text : Text)
  /-- Gives the terminal a size. -/
  | resize (cols rows : Int)
  /-- Lets a number of seconds pass. -/
  | pause (seconds : Float)
  /-- Writes a record to the log. -/
  | log (record : LogRecord)

/-- Actions, and the failure that comes after them, if any. -/
structure Script where
  /-- What is done, in order. -/
  actions : List Action := []
  /-- The failure after the last action. -/
  failure : Option Fault := none

namespace Script

/-- A script without failure. -/
def of (actions : List Action) : Script := ⟨actions, none⟩

/-- A script that fails at once. -/
def fail (fault : Fault) : Script := ⟨[], some fault⟩

/-- One script and then another, which is not begun if the first one fails. -/
def andThen (first second : Script) : Script :=
  match first.failure with
  | some _ => first
  | none => ⟨first.actions ++ second.actions, second.failure⟩

/-- Scripts one after the other, up to the first that fails. -/
def sequence : List Script → Script
  | [] => {}
  | first :: rest => first.andThen (sequence rest)

/-- Sends a text that was worked out, or fails as working it out did. -/
def sendOutcome (outcome : Except Fault Text) : Script :=
  match outcome with
  | .ok text => of [.send text]
  | .error fault => fail fault

/-- Sends what an encoding gives. -/
def sendEncoded (encoded : Except KeyEncodingError Text) : Script :=
  sendOutcome (encoded.mapError Fault.encoding)

end Script

variable {σ : Type}

/-- Carries out one action. -/
def Action.perform (rig : Rig σ) : Action → Act Fault σ Unit
  | .send text => rig.send text
  | .resize cols rows => rig.resize cols rows
  | .pause seconds => rig.sleep seconds
  | .log record => rig.log record

/-- Carries out the actions of a script and then fails as it fails. -/
def Script.perform (rig : Rig σ) (script : Script) : Act Fault σ Unit := do
  script.actions.forM (Action.perform rig)
  match script.failure with
  | some fault => throw fault
  | none => return ()

end TermPilot
