import TermPilot.Text.Basic

/-!
# Words of a shell command

A POSIX shell cuts a command into words. A word that holds anything but a few harmless characters
is put between single quotes, so that the shell takes it as it is.
-/

namespace TermPilot.Shell

/-- Whether a shell takes a character as itself wherever it stands. -/
def isSafe (c : Char) : Bool := c.isAlphanum || "_@%+=:,./-".toList.contains c

/-- A single quote inside a quoted word: the quotes are closed, the quote is put between double
quotes, and the quotes are opened again. -/
def quoteInside : Text := "'\"'\"'".toList

/-- A word as it is written in a command. -/
def quote (word : Text) : Text :=
  if !word.isEmpty && word.all isSafe then word
  else '\'' :: word.flatMap (fun c => if c = '\'' then quoteInside else [c]) ++ ['\'']

/-- The command of the given words. -/
def command (words : List Text) : Text := Text.join [' '] (words.map quote)

end TermPilot.Shell
