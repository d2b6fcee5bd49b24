import TermPilot.Settings.Basic
import TermPilot.Text.Case

/-!
# Settings from the environment

Variables of the environment override settings. An empty variable counts as missing.
-/

namespace TermPilot

/-- The variables of a process, by name. -/
abbrev Environment := List (Text × Text)

/-- The value of a variable. -/
def Environment.get? (e : Environment) (name : String) : Option Text :=
  (e.find? fun (key, _) => key = name.toList).map Prod.snd

/-- The environment with a variable set. -/
def Environment.put (name : String) (value : Text) : Environment → Environment
  | [] => [(name.toList, value)]
  | (key, old) :: rest =>
    if key = name.toList then (key, value) :: rest else (key, old) :: put name value rest

/-- The environment with a variable set, unless it is set already. -/
def Environment.putDefault (e : Environment) (name : String) (value : Text) : Environment :=
  if (e.get? name).isSome then e else e.put name value

/-- The settings that the environment overrides. -/
structure Overrides where
  /-- The pause after each replayed key. -/
  keyDelay : Option Float := none
  /-- The pause after a batch of replayed keys. -/
  batchPause : Option Float := none
  /-- How long a wait may take. -/
  waitTimeout : Option Float := none
  /-- The name of the level of the log. -/
  logLevel : Option Text := none

namespace Overrides

/-- The number of seconds that a variable gives. -/
def seconds (e : Environment) (name : String) : Except Fault (Option Float) :=
  match e.get? name with
  | none => .ok none
  | some [] => .ok none
  | some value => match Numeral.real? value with
    | none => .error (.notSeconds name value)
    | some x => if x < 0 then .error (.negativeSeconds name value) else .ok (some x)

/-- The name of a log level that a variable gives, in any mixture of cases. -/
def level (e : Environment) (name : String) : Except Fault (Option Text) :=
  match e.get? name with
  | none => .ok none
  | some [] => .ok none
  | some value =>
    let known := Text.upper value
    if Settings.levelNames.contains known then .ok (some known) else .error (.notALevel name known)

/-- What the environment overrides. -/
def ofEnvironment (e : Environment) : Except Fault Overrides := do
  let keyDelay ← seconds e "TERM_HARNESS_KEY_DELAY"
  let batchPause ← seconds e "TERM_HARNESS_BATCH_PAUSE"
  let waitTimeout ← seconds e "TERM_HARNESS_WAIT_TIMEOUT"
  let logLevel ← level e "TERM_HARNESS_LOG_LEVEL"
  return { keyDelay, batchPause, waitTimeout, logLevel }

/-- Whether nothing is overridden. -/
def isEmpty (o : Overrides) : Bool :=
  o.keyDelay.isNone && o.batchPause.isNone && o.waitTimeout.isNone && o.logLevel.isNone

end Overrides

/-- The settings with overrides applied. -/
def Settings.override (s : Settings) (o : Overrides) : Settings :=
  { s with
    keyDelay := o.keyDelay.getD s.keyDelay
    batchPause := o.batchPause.getD s.batchPause
    waitTimeout := o.waitTimeout.getD s.waitTimeout
    logLevel := o.logLevel.getD s.logLevel }

/-- The settings with what the environment overrides. -/
def Settings.inEnvironment (s : Settings) (e : Environment) : Except Fault Settings := do
  return s.override (← Overrides.ofEnvironment e)

end TermPilot
