import TermPilot.Files.Store

/-!
# Scripts for launched programs

A test of how a program launches others points it at a stand-in. The stand-in appends its working
directory and its arguments to a log, one a line. Another script sets variables of the environment
before it becomes a given command.
-/

namespace TermPilot.Launch

/-- The permissions of a script: everyone may run it, its owner may change it. -/
def permissions : Nat := 0o755

/-- The first line of a shell script. -/
def shebang : String := "#!/bin/sh\n"

/-- The stand-in that appends to the log at a path. -/
def mockScript (log : Text) : Text :=
  (shebang ++ "printf \"%s\\n\" \"$PWD\" \"$@\" >> \"").toList ++ log ++ "\"\n".toList

/-- The line that sets a variable. -/
def exportLine (name value : Text) : Text :=
  "export ".toList ++ name ++ "=\"".toList ++ value ++ "\"\n".toList

/-- The script that sets variables and becomes a command, with its own arguments added. -/
def wrapperScript (exported : List (Text × Text)) (command : Text) : Text :=
  shebang.toList ++ exported.flatMap (fun (name, value) => exportLine name value) ++
    "exec ".toList ++ command ++ " \"$@\"\n".toList

/-- Writes a script into a directory, which is made if it is missing; gives its path. -/
def install (files : FileStore) (directory : Path) (name : String) (script : Text) :
    FileStore × Except FileError Path :=
  let path := directory.child name.toList
  files.changeBelow directory fun made => return (← made.write path (Text.Utf8.encode script), path)

/-- Writes the stand-in into a directory. -/
def installMock (files : FileStore) (log : Text) (directory : Path) :
    FileStore × Except FileError Path :=
  install files directory "mock-executable.sh" (mockScript log)

/-- Writes the script that sets variables into a directory. -/
def installWrapper (files : FileStore) (exported : List (Text × Text)) (command : Text)
    (directory : Path) : FileStore × Except FileError Path :=
  install files directory "env-wrapper.sh" (wrapperScript exported command)

/-- The lines of a log, given by its bytes. -/
def logLines? (bytes : List UInt8) : Option (List Text) :=
  (Files.text? bytes).map Text.boundedLines

end TermPilot.Launch
