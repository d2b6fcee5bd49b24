import TermPilot.Text.Basic

/-!
# Lines of a text file

A text file is read with every carriage return, alone or before a line feed, as a line feed. The
lines of a log are cut at every character that Unicode calls a line boundary.
-/

namespace TermPilot.Text

/-- The text with every line end, `\r\n` or `\r`, written as one line feed. -/
def normaliseLineEnds : Text → Text
  | [] => []
  | '\r' :: '\n' :: rest => '\n' :: normaliseLineEnds rest
  | c :: rest => (if c = '\r' then '\n' else c) :: normaliseLineEnds rest

/-- The characters that end a line. -/
def lineBoundaryRanges : List (Nat × Nat) :=
  [(0x0A, 0x0D), (0x1C, 0x1E), (0x85, 0x85), (0x2028, 0x2029)]

/-- Whether `c` ends a line. -/
def isLineBoundary (c : Char) : Bool := inRanges lineBoundaryRanges c

/-- The lines of the text without their boundaries; `\r\n` is one boundary, and a boundary at the
end of the text starts no further line. -/
def boundedLines : Text → List Text
  | [] => []
  | '\r' :: '\n' :: rest => [] :: boundedLines rest
  | c :: rest =>
    if isLineBoundary c then [] :: boundedLines rest
    else match boundedLines rest with
      | [] => [[c]]
      | line :: lines => (c :: line) :: lines

end TermPilot.Text
