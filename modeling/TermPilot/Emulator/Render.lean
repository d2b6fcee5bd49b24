import TermPilot.Emulator.Cell
import TermPilot.Emulator.Palette
import TermPilot.Terminal.Sequence

/-!
# Dumps of cells

Cells are written as text with escape sequences, one line a row. A style is written where it
begins; before it, and at the end of the row, the style before it is reset. Cells at the end of a
row that show nothing are left out.
-/

namespace TermPilot.Emulator

/-- The sequence that resets the style. -/
def reset : Text := Terminal.controlSequence "" "m"

/-- The sequence for a colour. A colour that is neither named nor made of digits has none. -/
def colourSequence (codes : List (String × Nat)) (extended : Nat) (colour : Text) : Text :=
  if colour = "default".toList then []
  else match codeOf? codes colour with
    | some code => Terminal.controlSequence (toString code) "m"
    | none => match hexParts? colour with
      | some (red, green, blue) =>
        Terminal.controlSequence s!"{extended};2;{red};{green};{blue}" "m"
      | none => []

/-- The codes of the attributes of a style. -/
def Style.attributeCodes (style : Style) : List Nat :=
  [(style.bold, 1), (style.italics, 3), (style.underscore, 4), (style.blink, 5),
    (style.reverse, 7), (style.strikethrough, 9)].filterMap fun (given, code) =>
      if given then some code else none

/-- The sequence for the attributes of a style, if it has any. -/
def Style.attributeSequence (style : Style) : Text :=
  match style.attributeCodes with
  | [] => []
  | codes => Terminal.controlSequence (String.intercalate ";" (codes.map toString)) "m"

/-- The sequences for a style that follows the style of the terminal itself. -/
def Style.sequence (style : Style) : Text :=
  style.attributeSequence ++ colourSequence foregroundCodes 38 style.fg ++
    colourSequence backgroundCodes 48 style.bg

/-- What leads from a style back to the style of the terminal itself. -/
def Style.leave (style : Style) : Text := if style = {} then [] else reset

/-- Writes cells after a cell of the given style. -/
def paint (current : Style) : List Cell → Text
  | [] => current.leave
  | cell :: rest =>
    if cell.data.isEmpty then paint current rest
    else if cell.style = current then cell.data ++ paint current rest
    else
      let change := current.leave ++ if cell.style = {} then [] else cell.style.sequence
      change ++ cell.data ++ paint cell.style rest

/-- A row without the cells at its end that show nothing. -/
def trimRow (row : List Cell) : List Cell := (row.reverse.dropWhile Cell.isPlain).reverse

/-- The line of a row. -/
def renderRow (row : List Cell) : Text := paint {} (trimRow row)

/-- The text of rows of cells. -/
def render (rows : List (List Cell)) : Text := Text.join ['\n'] (rows.map renderRow)

end TermPilot.Emulator
