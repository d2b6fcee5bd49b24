import TermPilot.Text.Lines
import TermPilot.Text.Utf8

/-!
# Contents of text files

A text file is UTF-8, and every kind of line end in it is read as a line feed.
-/

namespace TermPilot.Files

/-- The text of a file, if its bytes are text. -/
def text? (bytes : List UInt8) : Option Text :=
  (Text.Utf8.decode? bytes).map Text.normaliseLineEnds

/-- The text of a file, with U+FFFD for what is not text. -/
def markedText (bytes : List UInt8) : Text :=
  Text.normaliseLineEnds (Text.Utf8.decodeMarked bytes)

end TermPilot.Files
