import TermPilot.Files.Path
import TermPilot.Settings.Basic

/-!
# Scenarios

A scenario tells how a program is started and which steps are then taken with its terminal.
-/

namespace TermPilot

/-- What a screen is expected to show. -/
structure Expectation where
  /-- A text that the screen contains. -/
  contains : Option Text := none
  /-- A pattern, in its written form, that matches somewhere on the screen. -/
  regex : Option Text := none
deriving Repr, DecidableEq

/-- How the program of a scenario is started and what its steps use by default. -/
structure ScenarioMeta where
  /-- The words of the command. -/
  command : List Text
  /-- The directory that the command runs in. -/
  cwd : Option Path
  /-- The variables that the command gets. -/
  env : List (Text × Text)
  /-- The size of the terminal. -/
  terminal : TerminalSize
  /-- The pauses of replays. -/
  timing : ReplayTiming
  /-- How long a wait may take, in seconds. -/
  waitTimeout : Float
  /-- The name of the scenario in the log. -/
  identifier : Option Text

/-- A step of a scenario. -/
inductive ScenarioStep where
  /-- Replays a recording, with pauses of its own if it has them. -/
  | replay (recording : Text) (timing : Option ReplayTiming)
  /-- Presses keys, by name. -/
  | keys (names : List Text)
  /-- Writes a text, or types it and runs it. -/
  | text (text : Text) (execute : Bool)
  /-- Waits for what the screen is to show. -/
  | wait (expectation : Expectation) (timeout : Float)
  /-- Keeps the screen under a label. -/
  | snapshot (label : Text)
  /-- Gives the terminal a size. -/
  | resize (rows cols : Int)

/-- A scenario. -/
structure Scenario where
  /-- How its program is started. -/
  head : ScenarioMeta
  /-- What is done. -/
  steps : List ScenarioStep
  /-- Its name. -/
  name : Option Text
  /-- What it is about. -/
  description : Option Text

/-- What the log calls a kind of step. -/
def ScenarioStep.kind : ScenarioStep → String
  | .replay .. => "ReplayStep"
  | .keys .. => "KeysStep"
  | .text .. => "TextStep"
  | .wait .. => "WaitStep"
  | .snapshot .. => "SnapshotStep"
  | .resize .. => "ResizeStep"

end TermPilot
