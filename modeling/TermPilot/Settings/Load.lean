import TermPilot.Files.Contents
import TermPilot.Json.Reader
import TermPilot.Json.Schema
import TermPilot.Settings.Basic

/-!
# Loading settings

Settings are a JSON object. What it does not mention keeps its default.
-/

namespace TermPilot

namespace Schema

/-- A duration of zero or more seconds. -/
def seconds : Schema := .number .zero

/-- The size of a terminal. -/
def terminalSize : Schema :=
  .record [("rows".toList, .count), ("cols".toList, .count)] ["rows".toList, "cols".toList]

/-- The settings of a session. -/
def settings : Schema :=
  .record
    [("batch_pause".toList, seconds), ("key_delay".toList, seconds),
     ("wait_timeout".toList, seconds), ("poll_interval".toList, .number .positive),
     ("terminal".toList, terminalSize), ("log_level".toList, .word Settings.levelNames)]
    []

end Schema

namespace Json

/-- The double nearest to a number. -/
def seconds (v : Json) : Except Fault Float :=
  match v with
  | .real x => .ok x
  | .int n => match Double.ofInt n with
    | some x => .ok x
    | none => .error .beyondDoubles
  | _ => .error .schema

/-- The double of a member, or `default` if there is no such member. -/
def secondsOr (object : Json) (key : String) (default : Float) : Except Fault Float :=
  match object.get? key with
  | some v => v.seconds
  | none => .ok default

/-- The size that a record of rows and columns gives. -/
def terminalSize (v : Json) : Except Fault TerminalSize :=
  match (v.get? "cols").bind whole?, (v.get? "rows").bind whole? with
  | some cols, some rows => .ok ⟨cols, rows⟩
  | _, _ => .error .schema

/-- The size of a member, or `default` if there is no such member. -/
def terminalSizeOr (object : Json) (key : String) (default : TerminalSize) :
    Except Fault TerminalSize :=
  match object.get? key with
  | some v => v.terminalSize
  | none => .ok default

end Json

namespace Settings

/-- The settings that an object gives. -/
def ofJson (data : Json) : Except Fault Settings := do
  if Schema.settings.accepts data then
    let defaults : Settings := {}
    let terminal ← data.terminalSizeOr "terminal" defaults.terminal
    let batchPause ← data.secondsOr "batch_pause" defaults.batchPause
    let keyDelay ← data.secondsOr "key_delay" defaults.keyDelay
    let waitTimeout ← data.secondsOr "wait_timeout" defaults.waitTimeout
    let pollInterval ← data.secondsOr "poll_interval" defaults.pollInterval
    let logLevel := ((data.get? "log_level").bind Json.text?).getD defaults.logLevel
    return { batchPause, keyDelay, waitTimeout, pollInterval, terminal, logLevel }
  else throw .schema

/-- The document in a file. -/
def documentOf (bytes : List UInt8) (depth : Nat := Json.usualDepth) : Except Fault Json :=
  match Files.text? bytes with
  | none => .error .undecodable
  | some t => (Json.read t depth).mapError Fault.ofJson

/-- The settings that a file gives. -/
def ofFile (bytes : List UInt8) (depth : Nat := Json.usualDepth) : Except Fault Settings := do
  ofJson (← documentOf bytes depth)

end Settings

end TermPilot
