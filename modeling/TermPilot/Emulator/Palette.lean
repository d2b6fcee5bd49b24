import TermPilot.Number.Numeral
import TermPilot.Text.Quoted

/-!
# The palette

Colours are selected by codes. Those of the basic sixteen have names; the names for the bright
background are those for the bright foreground but for one. The tables are those of pyte, the
library that emulates the terminal and is no part of this one. What is proved of them, and used,
stands in `Proofs.Emulator.Palette`.
-/

namespace TermPilot.Emulator

/-- The names of the colours of the eight codes from a first one on. -/
def named (first : Nat) (names : List String) : List (String × Nat) :=
  names.zipIdx.map fun (name, place) => (name, first + place)

/-- The basic colours in the order of their codes. -/
def basicNames : List String :=
  ["black", "red", "green", "brown", "blue", "magenta", "cyan", "white"]

/-- The codes of the foreground by name. -/
def foregroundCodes : List (String × Nat) :=
  named 30 basicNames ++ named 90 ["brightblack", "brightred", "brightgreen", "brightbrown",
    "brightblue", "brightmagenta", "brightcyan", "brightwhite"]

/-- The codes of the background by name. -/
def backgroundCodes : List (String × Nat) :=
  named 40 basicNames ++ named 100 ["brightblack", "brightred", "brightgreen", "brightbrown",
    "brightblue", "bfightmagenta", "brightcyan", "brightwhite"]

/-- The code of a name. -/
def codeOf? (codes : List (String × Nat)) (name : Text) : Option Nat :=
  (codes.find? fun (known, _) => known.toList = name).map Prod.snd

/-- The name of a code. -/
def nameOf? (codes : List (String × Nat)) (code : Nat) : Option Text :=
  (codes.find? fun (_, known) => known = code).map fun (name, _) => name.toList

/-- The six digits of a colour given by its parts. -/
def hexColour (red green blue : Nat) : Text :=
  Text.hexDigits 2 red ++ Text.hexDigits 2 green ++ Text.hexDigits 2 blue

/-- The part of a colour that two digits give. A sign and blanks are taken as digits are. -/
def hexPart? (digits : Text) : Option Int := (Numeral.wholeIn 16 digits).toOption

/-- The red, green and blue parts of a colour of six digits. -/
def hexParts? : Text → Option (Int × Int × Int)
  | [a, b, c, d, e, f] => do return (← hexPart? [a, b], ← hexPart? [c, d], ← hexPart? [e, f])
  | _ => none

/-- The first sixteen colours of the indexed palette. -/
def indexedBasic : List String :=
  ["000000", "cd0000", "00cd00", "cdcd00", "0000ee", "cd00cd", "00cdcd", "e5e5e5",
   "7f7f7f", "ff0000", "00ff00", "ffff00", "5c5cff", "ff00ff", "00ffff", "ffffff"]

/-- The six steps of a part of a colour in the cube of the indexed palette. -/
def cubeStep (n : Nat) : Nat := if n = 0 then 0 else 55 + 40 * n

/-- The colour of an index: one of sixteen, of a cube, or of a ramp of greys. -/
def indexed? (n : Nat) : Option Text :=
  if n < 16 then (indexedBasic[n]?).map String.toList
  else if n < 232 then
    let place := n - 16
    some (hexColour (cubeStep (place / 36)) (cubeStep (place / 6 % 6)) (cubeStep (place % 6)))
  else if n < 256 then
    let grey := 8 + 10 * (n - 232)
    some (hexColour grey grey grey)
  else none

end TermPilot.Emulator
