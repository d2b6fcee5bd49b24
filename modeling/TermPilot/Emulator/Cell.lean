import TermPilot.Text.Basic

/-!
# Cells

What an emulated screen is made of: characters with a style.
-/

namespace TermPilot.Emulator

/-- How a cell looks. A colour is the word for the colour of the terminal itself, one of the names
of the palette, or six hexadecimal digits. -/
structure Style where
  /-- The colour of the character. -/
  fg : Text := "default".toList
  /-- The colour behind it. -/
  bg : Text := "default".toList
  /-- Whether it is bold. -/
  bold : Bool := false
  /-- Whether it is slanted. -/
  italics : Bool := false
  /-- Whether it is underlined. -/
  underscore : Bool := false
  /-- Whether it blinks. -/
  blink : Bool := false
  /-- Whether its colours are exchanged. -/
  reverse : Bool := false
  /-- Whether it is crossed out. -/
  strikethrough : Bool := false
deriving Repr, DecidableEq

/-- A cell of a screen. -/
structure Cell where
  /-- The character; empty in the right half of a wide one. -/
  data : Text := [' ']
  /-- Its style. -/
  style : Style := {}
deriving Repr, DecidableEq

/-- Whether a cell shows nothing: it is blank, or the right half of a wide character, in the style
of the terminal itself. -/
def Cell.isPlain (c : Cell) : Bool := (c.data = [' '] || c.data.isEmpty) && c.style = {}

/-- The characters that take two columns, as ranges of code points. -/
def wideRanges : List (Nat × Nat) :=
  [(0x1100, 0x115F), (0x2E80, 0x303E), (0x3041, 0x4DBF), (0x4E00, 0xA4CF), (0xA960, 0xA97C),
   (0xAC00, 0xD7A3), (0xF900, 0xFAFF), (0xFE10, 0xFE19), (0xFE30, 0xFE6F), (0xFF01, 0xFF60),
   (0xFFE0, 0xFFE6), (0x1F300, 0x1F64F), (0x1F680, 0x1F6FF), (0x1F900, 0x1F9FF),
   (0x20000, 0x3FFFD)]

/-- The number of columns of a character that is shown. -/
def width (c : Char) : Nat := if Text.inRanges wideRanges c then 2 else 1

end TermPilot.Emulator
