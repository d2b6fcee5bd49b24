import TermPilot.Screen.Escape
import TermPilot.Screen.Token
import TermPilot.Text.Blank

/-!
# Trimming of screen dumps

A dump is trimmed without loss of styling: at the end of each line blank text and the escapes after
the last visible text are dropped, and then the blank lines at the end of the dump.
-/

namespace TermPilot.Screen

/-- The lines of a dump: those before, between and after the line feeds, without an empty one at the
end, each without one carriage return at its end. -/
def lines (t : Text) : List Text :=
  let parts := Text.splitOn '\n' t
  let whole := if parts.getLast? = some [] then parts.dropLast else parts
  whole.map (Text.dropLastChar '\r')

/-- Whether a token shows something that is not blank. -/
def Token.isVisible (token : Token) : Bool := !Text.isBlankText token.shown

/-- The line up to its last token with visible text. -/
def cleanLine (line : Text) : Text :=
  (((tokens line).reverse.dropWhile fun token => !token.isVisible).reverse).flatMap Token.raw

/-- Whether a line shows nothing but blanks. -/
def isBlankLine (line : Text) : Bool := Text.isBlankText (strip line)

/-- The dump without blank text and dangling escapes at the ends of its lines, and without blank
lines at its end. -/
def cleanTrailing (raw : Text) : Text :=
  let cleaned := (lines raw).map cleanLine
  Text.join ['\n'] (cleaned.reverse.dropWhile isBlankLine).reverse

end TermPilot.Screen
