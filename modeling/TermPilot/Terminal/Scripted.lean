import TermPilot.Terminal.Rig

/-!
# A scripted terminal

A terminal for tests: its screens are given in advance, its clock moves only when it is read or
slept on, and it keeps a record of what was done to it.
-/

namespace TermPilot

namespace Scripted

/-- Something done to a scripted terminal. -/
inductive Event where
  /-- Input was written. -/
  | sent (text : Text)
  /-- The terminal got a size. -/
  | resized (cols rows : Int)
  /-- A screen was shown; screens are numbered from zero. -/
  | captured (number : Nat)
  /-- Time passed. -/
  | slept (seconds : Float)
  /-- The terminal was started. -/
  | entered
  /-- The terminal was ended. -/
  | exited

end Scripted

/-- The state of a scripted terminal and its clock. -/
structure Scripted where
  /-- The screens still to be shown; the last one stays. -/
  screens : List Text
  /-- How far the clock moves with each reading. -/
  tick : Float
  /-- The time on the clock. -/
  now : Float := 0
  /-- The number of screens shown so far. -/
  captures : Nat := 0
  /-- What has been done, the latest first. -/
  done : List Scripted.Event := []
  /-- The records of the log, the latest first. -/
  logged : List LogRecord := []
  /-- The lowest level of the records that are kept. -/
  threshold : Int := 0

namespace Scripted

/-- Puts an event on record. -/
def note (event : Event) : Act Fault Scripted Unit :=
  modify fun s => { s with done := event :: s.done }

/-- Reads the clock, which then moves on by its tick. -/
def readClock : Act Fault Scripted Float :=
  modifyGet fun s => (s.now, { s with now := s.now + s.tick })

/-- Lets the clock move on. -/
def pause (seconds : Float) : Act Fault Scripted Unit := do
  note (.slept seconds)
  modify fun s => { s with now := s.now + seconds }

/-- Keeps a record that is grave enough. -/
def keep (record : LogRecord) : Act Fault Scripted Unit :=
  modify fun s => if record.level < s.threshold then s else { s with logged := record :: s.logged }

/-- The first of the screens, and those that remain after it was shown. -/
def cutScreen : List Text → Text × List Text
  | [] => ([], [])
  | [screen] => (screen, [screen])
  | screen :: rest => (screen, rest)

/-- Shows the next screen. -/
def nextScreen : Act Fault Scripted Text := do
  let s ← get
  let (screen, rest) := cutScreen s.screens
  set { s with screens := rest, captures := s.captures + 1 }
  note (.captured s.captures)
  return screen

/-- The scripted terminal with its clock and log. -/
def rig : Rig Scripted where
  now := readClock
  sleep := pause
  log := keep
  send := fun text => note (.sent text)
  capture := nextScreen
  resize := fun cols rows => note (.resized cols rows)

end Scripted

end TermPilot
