import TermPilot.Files.Store
import TermPilot.Kitty.Display
import TermPilot.Kitty.Listing
import TermPilot.Launch.Program
import TermPilot.Screen.Clean
import TermPilot.Terminal.Names
import TermPilot.Terminal.Rig

/-!
# Kitty windows

A window of the kitty terminal is controlled by running kitty as a remote control, which talks to
the window over a socket. Everything but the start of the window goes that way: its input, its
screen, its size and its end.
-/

namespace TermPilot.Kitty

variable {σ α : Type}

/-- What is needed to control kitty. `σ` is the state of the world. -/
structure Host (σ : Type) where
  /-- Runs a program to its end, or says why it could not be started. -/
  run : ProgramCall → Act Fault σ (Except Text ProgramResult)
  /-- Lets a number of seconds pass. -/
  sleep : Float → Act Fault σ Unit
  /-- Writes a record to the log. -/
  log : LogRecord → Act Fault σ Unit
  /-- Does what the log does with a record of a level whose message cannot be made. -/
  logUnmade : Int → Fault → Act Fault σ Unit
  /-- Changes the files. -/
  changeFiles : (FileStore → Except FileError FileStore) → Act Fault σ Unit
  /-- How deeply a document may be nested that is read. -/
  depth : Nat := Json.usualDepth

/-- A window, with its socket. -/
structure Window where
  /-- The address of the socket. -/
  address : Text
  /-- The identifier of the window. -/
  identifier : Json

/-- The number of attempts to find a window that was started. -/
def discoveryAttempts : Nat := 40

/-- The seconds after an attempt that found none. -/
def discoveryPause : Float := 0.1

/-- The seconds that the socket of a new window takes to appear. -/
def startupPause : Float := 0.3

/-- The seconds after input was sent. -/
def sendPause : Float := 0.02

/-- The seconds after the size was changed. -/
def resizePause : Float := 0.1

/-- Runs kitty as the remote control of a socket. -/
def remote (host : Host σ) (address : Text) (arguments : List Text) (input : Option Text) :
    Act Fault σ ProgramResult := do
  let words := ["kitty", "@", "--to"].map String.toList ++ address :: arguments
  match ← host.run { words, input } with
  | .ok result => return result
  | .error reason => throw (Fault.kitty (.notRun reason))

/-- The result of an action that has to succeed. -/
def expectSuccess (action : String) (result : ProgramResult) : Except Fault ProgramResult :=
  if result.succeeded then .ok result
  else
    let output := Text.Utf8.decodeMarked result.output
    let errors := Text.Utf8.decodeMarked result.errors
    .error (.kitty (.failed action output errors))

/-- The arguments that select a window. -/
def selecting (identifier : Json) : Except Fault (List Text) := do
  let shown ← (identifier.written .square).mapError Fault.unwritable
  return ["--match".toList, "id:".toList ++ shown]

/-! ## Starting -/

/-- The words that start kitty with a command of the shell. -/
def launchWords (panel : Bool) (address session command : Text) : List Text :=
  let kind := if panel then
      ["+kitten", "panel", "--focus-policy=not-allowed", "--edge=background"]
    else []
  ("kitty" :: kind ++ ["--listen-on"]).map String.toList ++ address ::
    "--class".toList :: session ::
    ["-o", "allow_remote_control=yes", "--detach", "bash", "--noprofile", "--norc", "-lc"].map
      String.toList ++ [command]

/-- The environment that kitty is started with. Programs in the window find the socket in it, and a
window that is no panel prefers drawing by software on X11. -/
def launchEnvironment (e : Environment) (panel : Bool) (address : Text) : Environment :=
  let e := e.put "KITTY_LISTEN_ON" address
  if panel then e
  else
    ((e.putDefault "KITTY_ENABLE_WAYLAND" ['0']).putDefault "WINIT_UNIX_BACKEND"
      "x11".toList).putDefault "LIBGL_ALWAYS_SOFTWARE" ['1']

/-- The identifiers that the output of a listing gives. Output that is no proper listing gives
none; it is an error only where it is nested too deeply, or where something without members stands
for a window or a tab. -/
def listed (depth : Nat) (output : List UInt8) : Except Fault (List Json) :=
  match Json.readBytes output depth with
  | .error .tooDeep => .error .tooDeep
  | .error _ => .ok []
  | .ok listing => match windowIds listing with
    | .error .notAnObject => .error (.listing .notAnObject)
    | .error _ => .ok []
    | .ok found => .ok found

/-- What an attempt to find a window gives. -/
def found (depth : Nat) (result : ProgramResult) : Except Fault (List Json) :=
  if result.succeeded then listed depth result.output else .ok []

/-- Looks for the first window of a socket, up to a number of attempts. -/
def discover (host : Host σ) (address : Text) : Nat → Act Fault σ Json
  | 0 => throw (Fault.kitty (.notReachable address))
  | attempts + 1 => do
    match ← Act.settle (found host.depth (← remote host address ["ls".toList] none)) with
    | first :: _ => return first
    | [] => do
      host.sleep discoveryPause
      discover host address attempts

/-- The files without what a former session left at a path. -/
def clearSocket (path : Path) (files : FileStore) : Except FileError FileStore := do
  if ← files.contains path then files.remove path else return files

/-- Starts kitty with a command in a directory and finds its window. -/
def launch (host : Host σ) (names : NameSource) (e : Environment) (directory : Path)
    (command : Text) : Act Fault σ Window := do
  let session := names.fresh.1
  let socket := directory.child (session ++ ".sock".toList)
  let address := "unix:".toList ++ socket.text
  host.changeFiles (clearSocket socket)
  let panel := usesPanel e
  let kind := if panel then "panel" else "window"
  let shownSession := Text.string session
  let shownAddress := Text.string address
  host.log (.info "kitty" s!"Launching kitty {kind} {shownSession} on {shownAddress}")
  let call : ProgramCall :=
    { words := launchWords panel address session command
      directory := some directory
      environment := some (launchEnvironment e panel address) }
  match ← host.run call with
  | .error reason => throw (Fault.kitty (.notLaunched reason))
  | .ok result => do
    let _ ← Act.settle (expectSuccess "launch" result)
    if !panel then host.sleep startupPause
    return ⟨address, ← discover host address discoveryAttempts⟩

namespace Window

/-! ## Controlling -/

/-- The windows of the session as kitty lists them. -/
def list (host : Host σ) (w : Window) : Act Fault σ Json := do
  let result ← remote host w.address ["ls".toList] none
  let result ← Act.settle (expectSuccess "ls" result)
  match Json.readBytes result.output host.depth with
  | .ok listing => return listing
  | .error .tooDeep => throw Fault.tooDeep
  | .error _ => throw (Fault.kitty .notAListing)

/-- Writes input to any window of the session. -/
def sendTo (host : Host σ) (w : Window) (identifier : Json) (text : Text) : Act Fault σ Unit := do
  let selected ← Act.settle (selecting identifier)
  let arguments := "send-text".toList :: selected ++ ["--stdin".toList]
  let result ← remote host w.address arguments (some text)
  host.sleep sendPause
  let _ ← Act.settle (expectSuccess "send-text" result)

/-- Writes input to the window. -/
def send (host : Host σ) (w : Window) (text : Text) : Act Fault σ Unit :=
  w.sendTo host w.identifier text

/-- The trimmed screen of any window of the session. -/
def captureOf (host : Host σ) (w : Window) (identifier : Json) : Act Fault σ Text := do
  let selected ← Act.settle (selecting identifier)
  let arguments := "get-text".toList :: selected ++
    ["--ansi", "--extent", "screen"].map String.toList
  let result ← remote host w.address arguments none
  let result ← Act.settle (expectSuccess "get-text" result)
  return Screen.cleanTrailing (Text.unixLineEnds (Text.Utf8.decodeMarked result.output))

/-- The trimmed screen of the window. -/
def capture (host : Host σ) (w : Window) : Act Fault σ Text := w.captureOf host w.identifier

/-- The trimmed screen of the window with and without its escape sequences. -/
def captureScreen (host : Host σ) (w : Window) : Act Fault σ (Text × Text) := do
  return Screen.withVisible (← w.capture host)

/-- Gives the window a size. A refusal is only told to the log. -/
def resize (host : Host σ) (w : Window) (cols rows : Int) : Act Fault σ Unit := do
  let width ← Act.settle ((Numeral.write cols).mapError Fault.unwritable)
  let height ← Act.settle ((Numeral.write rows).mapError Fault.unwritable)
  let arguments := ["resize-os-window", "--action", "resize", "--width"].map String.toList ++
    width :: "--height".toList :: height :: ["--unit", "cells"].map String.toList
  let result ← remote host w.address arguments none
  if !result.succeeded then
    host.log (.warning "kitty" s!"kitty resize-os-window to {cols}x{rows} failed")
  host.sleep resizePause

/-- An identifier as a whole number, cut off at its point. -/
def number : Json → Except ListingError Int
  | .int n => .ok n
  | .bool b => .ok (if b then 1 else 0)
  | .real x => match Double.truncate? x with
    | some n => .ok n
    | none => .error (if x.isNaN then .notNumeric else .infinite)
  | _ => .error .notANumber

/-- Tells the log that kitty did not close a window. The identifier is to be written as a number,
which cannot be done with every identifier. -/
def logRefusal (host : Host σ) (identifier : Json) (status : Int) : Act Fault σ Unit :=
  match number identifier with
  | .ok shown => host.log (.debug "kitty" s!"kitty close-window id:{shown} returned {status}")
  | .error error => host.logUnmade LogRecord.debugLevel (.listing error)

/-- Closes one window of the session. A refusal is only told to the log. -/
def closeOne (host : Host σ) (w : Window) (identifier : Json) : Act Fault σ Unit := do
  let selected ← Act.settle (selecting identifier)
  let result ← remote host w.address ("close-window".toList :: selected) none
  if !result.succeeded then logRefusal host identifier result.status

/-- The identifiers of the windows of the session; none if kitty does not list them. -/
def identifiers (host : Host σ) (w : Window) : Act Fault σ (List Json) := do
  match ← Act.observe (w.list host) with
  | .ok listing => Act.settle ((windowIds listing).mapError Fault.listing)
  | .error (.kitty _) => return []
  | .error fault => throw fault

/-- Closes every window of the session, or this one if none is listed. -/
def close (host : Host σ) (w : Window) : Act Fault σ Unit := do
  match ← w.identifiers host with
  | [] => w.closeOne host w.identifier
  | found => found.forM (w.closeOne host)

/-- Does something with the session and closes it at last. -/
def during (host : Host σ) (w : Window) (act : Act Fault σ α) : Act Fault σ α :=
  Act.andAtLast act (w.close host)

end Window

end TermPilot.Kitty
