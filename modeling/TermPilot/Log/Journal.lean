import TermPilot.Fault
import TermPilot.Files.Store
import TermPilot.Log.Level
import TermPilot.Text.Case

/-!
# The journal

Where log records go. A journal has a level and targets, each with a level of its own: the console
and a file. Records of a journal without targets, and of anything that is not part of it, still
reach the console if they are grave, as their bare message.
-/

namespace TermPilot

/-- Where a journal writes to. -/
inductive LogTarget where
  /-- The console. -/
  | console
  /-- A file. -/
  | file (path : Path)
deriving Repr, DecidableEq

/-- The form of the lines that a target gets. -/
def LogTarget.lineFormat : String := "[%(asctime)s] [%(levelname)s] %(name)s: %(message)s"

/-- The form of the time in the lines that a target gets. -/
def LogTarget.timeFormat : LogTarget → String
  | .console => "%H:%M:%S"
  | .file _ => "%Y-%m-%d %H:%M:%S"

/-- A target and the lowest level that it gets. -/
structure LogHandler where
  /-- The target. -/
  target : LogTarget
  /-- The lowest level of its records. -/
  level : Int
deriving Repr, DecidableEq

/-- The level that a journal is set to. -/
inductive LevelChoice where
  /-- A number. -/
  | number (level : Int)
  /-- A name, in any mixture of cases. -/
  | name (name : Text)
deriving Repr, DecidableEq

/-- A journal, with the console and the files that it writes to. -/
structure Journal where
  /-- The name of the part of the log that the journal is about. -/
  name : Text
  /-- The lowest level of its records. -/
  level : Int
  /-- Its targets. -/
  handlers : List LogHandler := []
  /-- What the console shows. -/
  console : Text := []
  /-- The files. -/
  files : FileStore

namespace Journal

/-- The number of a level. -/
def numberOf : LevelChoice → Except Fault Int
  | .number level => .ok level
  | .name name => match LogLevel.ofName? (Text.upper name) with
    | some level => .ok level
    | none => .error (.unknownLogLevel name)

/-- Makes a log file if it is missing, with the directories above it. -/
def openFile (files : FileStore) (path : Path) : FileStore × Except FileError Unit :=
  files.changeBelow path.parent fun made => return (← made.appendTo path [], ())

/-- Sets level and targets. With an unknown level nothing changes; where the file cannot be made,
level and console are set already, and the directories that were made stay. -/
def setUp (j : Journal) (choice : LevelChoice) (console : Bool) (file : Option Path) :
    Journal × Except Fault Unit :=
  match numberOf choice with
  | .error fault => (j, .error fault)
  | .ok level =>
    let handlers := if console then [⟨.console, level⟩] else []
    let set : Journal := { j with level, handlers }
    match file with
    | none => (set, .ok ())
    | some path => match openFile j.files path with
      | (files, .error error) => ({ set with files }, .error (.file error))
      | (files, .ok ()) =>
        ({ set with files, handlers := handlers ++ [⟨.file path, level⟩] }, .ok ())

/-- Whether the records of a source belong to the journal: it has the journal's name, or its name
goes on after it with a point. -/
def covers (j : Journal) (source : Text) : Bool :=
  source == j.name || (j.name ++ ['.']).isPrefixOf source

/-- The line for a record. -/
def line (time source : Text) (level : Int) (message : Text) : Text :=
  '[' :: time ++ "] [".toList ++ (LogLevel.name level).toList ++ "] ".toList ++ source ++
    ": ".toList ++ message ++ ['\n']

/-- Shows a text on the console. -/
def print (j : Journal) (t : Text) : Journal := { j with console := j.console ++ t }

/-- Writes a line to a target. A file that cannot be written loses it. -/
def deliver (j : Journal) (written : Text) : LogTarget → Journal
  | .console => j.print written
  | .file path => match j.files.appendTo path (Text.Utf8.encode written) with
    | .ok files => { j with files }
    | .error _ => j

/-- Shows the bare message of a grave record. -/
def lastResort (j : Journal) (level : Int) (message : Text) : Journal :=
  if level < LogLevel.inherited then j else j.print (message ++ ['\n'])

/-- Writes a record that a source made at the given time. A record needs a level above zero. -/
def emit (j : Journal) (time source : Text) (level : Int) (message : Text) : Journal :=
  if !j.covers source then j.lastResort level message
  else if level ≤ 0 || level < LogLevel.threshold j.level then j
  else if j.handlers.isEmpty then j.lastResort level message
  else (j.handlers.filter fun h => h.level ≤ level).foldl
    (fun j h => j.deliver (line time source level message) h.target) j

end Journal

end TermPilot
