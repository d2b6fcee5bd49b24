import TermPilot.Shell.Words

/-!
# Commands under a dump

Kitty can report every command of its parser instead of only painting the screen. A command that is
run under such a dump is wrapped into a script, which prints its status behind a marker, since the
status of kitty itself tells nothing about it.
-/

namespace TermPilot.Dump

/-- What stands before the status of the wrapped command. -/
def marker : String := "KITTY_RUNNER_EXIT_CODE:"

/-- The script that runs a command and prints its status. -/
def script (words : List Text) : Text :=
  Shell.command words ++
    s!"; EXIT_CODE=$?; echo \"{marker}$EXIT_CODE\"; exit $EXIT_CODE".toList

/-- The words that run a command under a dump. -/
def wrapped (words : List Text) : List Text :=
  ["kitty", "--dump-commands=yes", "bash", "-c"].map String.toList ++ [script words]

end TermPilot.Dump
