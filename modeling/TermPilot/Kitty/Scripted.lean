import TermPilot.Kitty.Window

/-!
# A scripted host

A host for tests: the results of the programs that are run on it are given in advance, and it keeps
a record of what was done.
-/

namespace TermPilot.Kitty

/-- Something done on a scripted host. -/
inductive ScriptedHost.Event where
  /-- A program was run. -/
  | ran (call : ProgramCall)
  /-- Time passed. -/
  | slept (seconds : Float)

/-- The state of a scripted host. -/
structure ScriptedHost where
  /-- What the next programs give: a result, or the reason why they do not start. -/
  responses : List (Except Text ProgramResult)
  /-- What all later programs give. -/
  standing : Except Text ProgramResult := .ok {}
  /-- The files. -/
  files : FileStore
  /-- What has been done, the latest first. -/
  done : List ScriptedHost.Event := []
  /-- The records of the log, the latest first. -/
  logged : List LogRecord := []

namespace ScriptedHost

/-- Gives the next response. -/
def respond (call : ProgramCall) : Act Fault ScriptedHost (Except Text ProgramResult) :=
  modifyGet fun s =>
    let s := { s with done := .ran call :: s.done }
    match s.responses with
    | [] => (s.standing, s)
    | response :: rest => (response, { s with responses := rest })

/-- Changes the files. -/
def change (f : FileStore → Except FileError FileStore) : Act Fault ScriptedHost Unit := do
  match f (← get).files with
  | .ok files => modify fun s => { s with files }
  | .error error => throw (Fault.file error)

/-- The scripted host. Its log makes every message, so that one that cannot be made is a fault. -/
def host : Host ScriptedHost where
  run := respond
  sleep := fun seconds => modify fun s => { s with done := .slept seconds :: s.done }
  log := fun record => modify fun s => { s with logged := record :: s.logged }
  logUnmade := fun _ fault => throw fault
  changeFiles := change

end ScriptedHost

end TermPilot.Kitty
