import TermPilot.Replay.Script
import TermPilot.Scenario.Expectation
import TermPilot.Scenario.Load
import TermPilot.Wait.Screen

/-!
# Running scenarios

A scenario is run step by step, either on a terminal that is there already or on one that is started
for it and ended after it, also when a step fails.
-/

namespace TermPilot

variable {σ : Type}

/-- A screen kept by a scenario. -/
structure Snapshot where
  /-- The label that it is kept under. -/
  label : Text
  /-- The screen with its escape sequences. -/
  raw : Text
  /-- The visible text of the screen. -/
  clean : Text
deriving Repr, DecidableEq

/-- What the run of a scenario leaves. -/
structure RunResult where
  /-- The screens kept, in order. -/
  snapshots : List Snapshot := []
  /-- The warnings about replayed recordings, in order. -/
  warnings : List RecordingWarning := []

/-- What a scenario is run with. -/
structure Conductor where
  /-- The settings for what the scenario leaves out. -/
  settings : Settings
  /-- The modes that keys are encoded for. -/
  modes : KeyModes
  /-- The encoder of keys. -/
  encoder : KeyEncoder
  /-- How deeply a document may be nested that a scenario is loaded from. -/
  documentDepth : Nat := Json.usualDepth
  /-- How deeply a pattern may be nested that a screen is compared with. -/
  patternDepth : Nat := Pattern.usualDepth

/-- A way to start a terminal for a scenario and to end it. -/
structure Launcher (σ : Type) where
  /-- Starts the terminal. -/
  start : ScenarioMeta → Act Fault σ (Rig σ)
  /-- Ends the terminal. -/
  stop : Act Fault σ Unit

/-- The first snapshot with a label. -/
def RunResult.snapshot (r : RunResult) (label : Text) : Except Fault Snapshot :=
  match r.snapshots.find? fun s => s.label = label with
  | some s => .ok s
  | none => .error (.noSnapshot label)

/-- Both results, one after the other. -/
def RunResult.append (r s : RunResult) : RunResult :=
  ⟨r.snapshots ++ s.snapshots, r.warnings ++ s.warnings⟩

/-- A bench whose log keeps the records from a level on. -/
def Bench.keeping (bench : Bench σ) (level : Int) : Bench σ :=
  { bench with
    log := fun record =>
      if record.level < LogLevel.threshold level then return () else bench.log record }

/-- A rig whose log keeps the records from a level on. -/
def Rig.keeping (rig : Rig σ) (level : Int) : Rig σ :=
  { rig with toBench := rig.toBench.keeping level }

/-- What the log calls a scenario: its identifier or else its name, if one is not empty. -/
def Scenario.label (s : Scenario) : String :=
  let names := [s.head.identifier, s.name].filterMap id
  ((names.find? fun t => !t.isEmpty).map Text.string).getD "scenario"

namespace Conductor

/-- Presses keys, given by name. Every name must stand for a key. -/
def keys (c : Conductor) (names : List Text) : Script :=
  .sequence (names.map fun name =>
    match KeyPress.ofName? name with
    | .error error => .fail (.ofNumeral error)
    | .ok none => .fail (.unknownKey name)
    | .ok (some press) => .sendEncoded (c.encoder press.key press.mods c.modes))

/-- Carries out a script, which leaves nothing. -/
def play (rig : Rig σ) (script : Script) : Act Fault σ RunResult := do
  script.perform rig
  return {}

/-- Takes one step of a scenario with the given label and pauses. -/
def step (c : Conductor) (rig : Rig σ) (label : String) (timing : ReplayTiming) :
    ScenarioStep → Act Fault σ RunResult
  | .replay recording own => do
    let reading := Recording.read recording
    let events := Replay.events c.encoder c.modes (own.getD timing)
    (Replay.ofReading reading events).perform rig
    return { warnings := reading.warnings }
  | .keys names => play rig (c.keys names)
  | .text text execute =>
    play rig (if execute then Typing.textAndExecute c.encoder text else .of [.send text])
  | .wait expectation timeout => do
    let expected := Text.string expectation.describe
    rig.log (.info "orchestrator" s!"{label} waiting until screen {expected}")
    let bounds : WaitBounds := { timeout, interval := c.settings.pollInterval }
    let found ← Wait.forScreen rig (fun (_, clean) => expectation.isMetBy clean c.patternDepth)
      bounds
    let _ ← Wait.orFail .screenTimeout found
    return {}
  | .snapshot name => do
    let (raw, clean) ← rig.captureScreen
    return { snapshots := [⟨name, raw, clean⟩] }
  | .resize rows cols => do
    rig.resize cols rows
    return {}

/-- Takes steps in order; the first has the given number. -/
def steps (c : Conductor) (rig : Rig σ) (label : String) (timing : ReplayTiming) (number : Nat) :
    List ScenarioStep → Act Fault σ RunResult
  | [] => return {}
  | next :: rest => do
    rig.log (.debug "orchestrator" s!"{label} step {number}: {next.kind}")
    let first ← c.step rig label timing next
    let later ← c.steps rig label timing (number + 1) rest
    return first.append later

/-- Takes the steps of a scenario. -/
def perform (c : Conductor) (rig : Rig σ) (s : Scenario) : Act Fault σ RunResult :=
  c.steps rig s.label s.head.timing 0 s.steps

/-- Takes the steps of a scenario on a terminal started for it. -/
def performIn (c : Conductor) (launcher : Launcher σ) (level : Int) (s : Scenario) :
    Act Fault σ RunResult := do
  let rig ← launcher.start s.head
  Act.andAtLast (c.perform (rig.keeping level) s) launcher.stop

/-- The level that the settings give the log. -/
def logLevel (c : Conductor) : Except Fault Int :=
  match c.settings.level? with
  | some level => .ok level
  | none => .error (.unknownLevel (LogLevel.unknownName c.settings.logLevel))

/-- Loads a scenario and runs it on a terminal that is there already. -/
def runOn (c : Conductor) (rig : Rig σ) (files : FileStore) (source : Scenario.Source) :
    Act Fault σ (Scenario × RunResult) := do
  let level ← Act.settle c.logLevel
  let s ← Act.settle (Scenario.load files c.settings source c.documentDepth)
  return (s, ← c.perform (rig.keeping level) s)

/-- Loads a scenario and runs it on a terminal started for it. -/
def runIn (c : Conductor) (launcher : Launcher σ) (files : FileStore) (source : Scenario.Source) :
    Act Fault σ (Scenario × RunResult) := do
  let level ← Act.settle c.logLevel
  let s ← Act.settle (Scenario.load files c.settings source c.documentDepth)
  return (s, ← c.performIn launcher level s)

end Conductor

end TermPilot
