import TermPilot.Files.Path
import TermPilot.Log.Record
import TermPilot.Settings.Environment

/-!
# Where kitty can be shown

The environment tells whether a kitty window can be opened at all, and whether it is opened as a
panel in the background or as a window of its own.
-/

namespace TermPilot.Kitty

/-- Whether a variable is set, also if it is empty. -/
def isSet (e : Environment) (name : String) : Bool := (e.get? name).isSome

/-- Whether the environment asks for a panel. A variable of its own decides; without it a panel is
used in a native Wayland session, but not in a Linux that runs under Windows. -/
def usesPanel (e : Environment) : Bool :=
  match e.get? "KITTY_TEST_USE_PANEL" with
  | some choice => ["1", "true"].contains (Text.string (Text.lower choice))
  | none =>
    !(isSet e "WSL_DISTRO_NAME" || isSet e "WSL_INTEROP") && isSet e "WAYLAND_DISPLAY" &&
      e.get? "XDG_SESSION_TYPE" == some "wayland".toList

/-- What stands in the way of kitty windows. -/
inductive Obstacle where
  /-- They are not asked for. -/
  | notWanted
  /-- There is no display. -/
  | noDisplay
  /-- The program is not there. -/
  | notInstalled
deriving Repr, DecidableEq

/-- The message for an obstacle. -/
def Obstacle.message : Obstacle → String
  | .notWanted => "Skipping kitty tests: set KITTY_TESTS=1 and run under a GUI session"
  | .noDisplay => "Skipping kitty tests: DISPLAY/WAYLAND_DISPLAY not set"
  | .notInstalled => "Skipping kitty tests: kitty binary not found on PATH"

/-- The record of an obstacle. -/
def Obstacle.record (obstacle : Obstacle) : LogRecord := .info "kitty" obstacle.message

/-- The places where the environment has a program searched for. -/
def searchPaths (e : Environment) (program : String) : List Path :=
  match e.get? "PATH" with
  | none => []
  | some [] => []
  | some path => (Text.splitOn ':' path).map fun dir => (Path.ofText dir).child program.toList

/-- The first obstacle, if there is any. `executable` tells whether a path leads to a program. -/
def obstacle? (e : Environment) (executable : Path → Bool) : Option Obstacle :=
  let wanted := Text.string (Text.lower ((e.get? "KITTY_TESTS").getD []))
  if ["", "0", "false"].contains wanted then some .notWanted
  else if !(isSet e "DISPLAY" || isSet e "WAYLAND_DISPLAY") then some .noDisplay
  else if (searchPaths e "kitty").any executable then none
  else some .notInstalled

end TermPilot.Kitty
