/-!
# File errors

What can go wrong with a file, apart from its contents.
-/

namespace TermPilot

/-- Why a file could not be reached or made. -/
inductive FileError where
  /-- There is no such file. -/
  | notFound
  /-- There is something else in the way. -/
  | alreadyExists
  /-- A part of the path is no directory. -/
  | notADirectory
  /-- The file is a directory. -/
  | isADirectory
  /-- The file may not be used that way. -/
  | notPermitted
  /-- The path or a part of it is too long. -/
  | nameTooLong
  /-- The path holds the character zero. -/
  | nulInPath
deriving Repr, DecidableEq

end TermPilot
