import TermPilot.Text.Basic

/-!
# Blank characters

Which characters count as blank space, and the text without the blanks around it.
-/

namespace TermPilot.Text

/-- The blank characters, as ranges of code points: the ASCII blanks and the separators
U+001C to U+001F, and every space and line separator of Unicode. -/
def blankRanges : List (Nat × Nat) :=
  [(0x09, 0x0D), (0x1C, 0x20), (0x85, 0x85), (0xA0, 0xA0), (0x1680, 0x1680), (0x2000, 0x200A),
   (0x2028, 0x2029), (0x202F, 0x202F), (0x205F, 0x205F), (0x3000, 0x3000)]

/-- Whether `c` is blank space. -/
def isBlank (c : Char) : Bool := inRanges blankRanges c

/-- The text without the blanks at its start. -/
def trimStart (t : Text) : Text := t.dropWhile isBlank

/-- The text without the blanks at its end. -/
def trimEnd (t : Text) : Text := dropWhileEnd isBlank t

/-- The text without the blanks at either end. -/
def trim (t : Text) : Text := trimEnd (trimStart t)

/-- Whether the text has no visible character at all. -/
def isBlankText (t : Text) : Bool := t.all isBlank

end TermPilot.Text
