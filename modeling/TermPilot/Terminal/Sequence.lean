import TermPilot.Text.Basic

/-!
# Escape sequences

The sequences that terminals and programs exchange begin with the escape character. A control
sequence goes on with a bracket, parameters and a final character.
-/

namespace TermPilot.Terminal

/-- The escape character. -/
def esc : Char := '\x1b'

/-- The text of a control sequence with the given parameters and final character. -/
def controlSequence (parameters : String) (final : String) : Text :=
  esc :: '[' :: (parameters.toList ++ final.toList)

end TermPilot.Terminal
