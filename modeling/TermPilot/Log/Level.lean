import TermPilot.Text.Basic

/-!
# Names of log levels

Six levels have names of their own, two of them a second one. Any other level is called by its
number.
-/

namespace TermPilot.LogLevel

/-- The names that a level can be set by. -/
def names : List (String × Int) :=
  [("CRITICAL", 50), ("FATAL", 50), ("ERROR", 40), ("WARN", 30), ("WARNING", 30), ("INFO", 20),
   ("DEBUG", 10), ("NOTSET", 0)]

/-- The level of the given name. -/
def ofName? (name : Text) : Option Int :=
  (names.find? fun (known, _) => known.toList = name).map Prod.snd

/-- The name of a level. -/
def name (level : Int) : String :=
  if level = 50 then "CRITICAL"
  else if level = 40 then "ERROR"
  else if level = 30 then "WARNING"
  else if level = 20 then "INFO"
  else if level = 10 then "DEBUG"
  else if level = 0 then "NOTSET"
  else s!"Level {level}"

/-- The level of a log that sets none of its own. -/
def inherited : Int := 30

/-- The lowest level of the records that a log keeps. A level of zero is none of its own. -/
def threshold (level : Int) : Int := if level = 0 then inherited else level

/-- What an unknown name of a level is reported as. -/
def unknownName (name : Text) : Text := "Level ".toList ++ name

end TermPilot.LogLevel
