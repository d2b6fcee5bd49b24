import TermPilot.Files.Path
import TermPilot.Settings.Environment

/-!
# Programs

How the library has other programs run, and what it learns from them.
-/

namespace TermPilot

/-- A program that is to be run. -/
structure ProgramCall where
  /-- The name of the program and its arguments. -/
  words : List Text
  /-- What it can read; it inherits its input if nothing is given. -/
  input : Option Text := none
  /-- Where it runs, if not where the caller runs. -/
  directory : Option Path := none
  /-- Its environment, if not that of the caller. -/
  environment : Option Environment := none

/-- What a program leaves when it has ended. -/
structure ProgramResult where
  /-- The status that it ended with; zero means success. -/
  status : Int := 0
  /-- What it wrote. -/
  output : List UInt8 := []
  /-- What it wrote to its error stream. -/
  errors : List UInt8 := []

/-- Whether a program ended with success. -/
def ProgramResult.succeeded (result : ProgramResult) : Bool := result.status = 0

end TermPilot
