import TermPilot.Files.Store
import TermPilot.Scenario.Basic
import TermPilot.Settings.Load

/-!
# Loading scenarios

A scenario is a JSON document. What it leaves out comes from the settings. Recordings that it
names are read from files, whose paths start from the directory of the scenario's own file.
-/

namespace TermPilot

namespace Schema

/-- The pauses of a replay. -/
def timing : Schema :=
  .record [("batch_pause".toList, seconds), ("key_delay".toList, seconds)] []

/-- What a screen is expected to show. -/
def expectation : Schema :=
  .both (.record [("contains".toList, .text 0), ("regex".toList, .text 0)] []) .someMember

/-- A step of the given type, with its members. -/
def step (type : String) (fields : List (String × Schema)) (required : List String) : Schema :=
  .record
    (("type".toList, .word [type.toList]) :: fields.map fun (name, schema) => (name.toList, schema))
    ("type".toList :: required.map String.toList)

/-- A step that replays a recording, given by its text or by its file. -/
def replayStep : Schema :=
  .both
    (step "replay" [("recording", .text 0), ("file", .text 0), ("timing", timing)] [])
    (.eitherMember "recording".toList "file".toList)

/-- A step that presses keys. -/
def keysStep : Schema := step "keys" [("keys", .list (.text 1) 1)] ["keys"]

/-- A step that writes a text. -/
def textStep : Schema := step "text" [("text", .text 0), ("execute", .bool)] ["text"]

/-- A step that waits for a screen. -/
def waitStep : Schema := step "wait" [("expect", expectation), ("timeout", seconds)] ["expect"]

/-- A step that keeps the screen. -/
def snapshotStep : Schema := step "snapshot" [("label", .text 0)] ["label"]

/-- A step that gives the terminal a size. -/
def resizeStep : Schema := step "resize" [("rows", .count), ("cols", .count)] ["rows", "cols"]

/-- How the program of a scenario is started. -/
def scenarioMeta : Schema :=
  .record
    [("id".toList, .text 0), ("command".toList, .list (.text 0) 1), ("cwd".toList, .text 0),
     ("env".toList, .map (.text 0)), ("terminal".toList, terminalSize),
     ("timing".toList, timing), ("wait_timeout".toList, seconds)]
    ["command".toList]

/-- A scenario. -/
def scenario : Schema :=
  .record
    [("name".toList, .text 0), ("description".toList, .text 0), ("meta".toList, scenarioMeta),
     ("steps".toList,
      .list (.oneOf [replayStep, keysStep, textStep, waitStep, snapshotStep, resizeStep]) 1)]
    ["meta".toList, "steps".toList]

end Schema

namespace Scenario

/-- The text of a member. -/
def textOf? (object : Json) (key : String) : Option Text := (object.get? key).bind Json.text?

/-- The texts of a member. -/
def textsOf (object : Json) (key : String) : List Text :=
  (((object.get? key).bind Json.items?).getD []).filterMap Json.text?

/-- The pauses that a record gives; a pause that is not mentioned is zero. -/
def timingOf (payload : Json) : Except Fault ReplayTiming := do
  let batchPause ← payload.secondsOr "batch_pause" 0
  let keyDelay ← payload.secondsOr "key_delay" 0
  ReplayTiming.make batchPause keyDelay

/-- The pauses of a member, if there are any. -/
def timingOf? (object : Json) : Except Fault (Option ReplayTiming) :=
  match object.get? "timing" with
  | some payload => (timingOf payload).map some
  | none => .ok none

/-- How the program of a scenario is started. -/
def metaOf (raw : Json) (defaults : Settings) : Except Fault ScenarioMeta := do
  let terminal ← raw.terminalSizeOr "terminal" defaults.terminal
  let timing ← match ← timingOf? raw with
    | some timing => pure timing
    | none => defaults.timing
  let waitTimeout ← raw.secondsOr "wait_timeout" defaults.waitTimeout
  let env := ((raw.get? "env").bind Json.members?).getD []
  return {
    command := textsOf raw "command"
    cwd := (textOf? raw "cwd").map Path.ofText
    env := env.filterMap fun (name, value) => value.text?.map fun t => (name, t)
    terminal, timing, waitTimeout
    identifier := textOf? raw "id" }

/-- The text of a file. -/
def fileText (files : FileStore) (path : Path) : Except Fault Text := do
  let bytes ← (files.read path).mapError Fault.file
  match Files.text? bytes with
  | some t => return t
  | none => throw .undecodable

/-- A step of a scenario with waits of `waitTimeout` seconds. -/
def stepOf (files : FileStore) (base : Path) (waitTimeout : Float) (payload : Json) :
    Except Fault ScenarioStep := do
  let type := ((textOf? payload "type").map Text.string).getD ""
  match type with
  | "replay" =>
    let recording ← match textOf? payload "recording" with
      | some t => pure t
      | none => fileText files (base.append (.ofText ((textOf? payload "file").getD [])))
    return .replay recording (← timingOf? payload)
  | "keys" => return .keys (textsOf payload "keys")
  | "text" =>
    let execute := ((payload.get? "execute").bind Json.bool?).getD false
    return .text ((textOf? payload "text").getD []) execute
  | "wait" =>
    let expect := (payload.get? "expect").getD .null
    let timeout ← payload.secondsOr "timeout" waitTimeout
    return .wait ⟨textOf? expect "contains", textOf? expect "regex"⟩ timeout
  | "snapshot" => return .snapshot ((textOf? payload "label").getD [])
  | "resize" =>
    let size ← payload.terminalSize
    return .resize size.rows size.cols
  | _ => throw .schema

/-- The scenario that a document gives. -/
def ofJson (files : FileStore) (base : Path) (defaults : Settings) (data : Json) :
    Except Fault Scenario := do
  if Schema.scenario.accepts data then
    let head ← metaOf ((data.get? "meta").getD .null) defaults
    let raw := ((data.get? "steps").bind Json.items?).getD []
    let steps ← raw.mapM (stepOf files base head.waitTimeout)
    return { head, steps, name := textOf? data "name", description := textOf? data "description" }
  else throw .schema

/-- Where a scenario comes from. -/
inductive Source where
  /-- A document; its files are found from the home of the store. -/
  | document (data : Json)
  /-- A file; its files are found from its directory. -/
  | file (path : Path)

/-- Loads a scenario. -/
def load (files : FileStore) (defaults : Settings) (source : Source)
    (depth : Nat := Json.usualDepth) : Except Fault Scenario :=
  match source with
  | .document data => ofJson files files.home defaults data
  | .file path => do
    let bytes ← (files.read path).mapError Fault.file
    ofJson files path.parent defaults (← Settings.documentOf bytes depth)

end Scenario

end TermPilot
