import TermPilot.Emulator.Command
import TermPilot.Emulator.Rendition

/-!
# Screens

An emulated screen holds the cells that were set, a cursor and a style for what comes next. A cell
that was never set is a blank in the style of the terminal itself. A row is in use once something
was written to it, erased in it, or read from it. The cursor may stand one column right of the last
one: the next character then goes to the next row.

The screen stands for that of pyte, a library that is no part of this one, as far as sessions make
use of it; so do cells, renditions, commands and streams. Obeyed are the control sequences that end
in `A`, `B`, `C`, `D`, `H`, `J`, `K`, `m`, `n` or `c`. The library knows more of them, and escape
sequences of other forms; these change nothing here.

A screen may be without any row or column. Places of such a screen are still numbered by its edges,
so that its cursor stands left of the first column or above the first row. What is written there
is not kept, since it never comes into sight.
-/

namespace TermPilot.Emulator

/-- The list with `a` at a place; places before it that the list does not have are filled. -/
def setAt {α : Type} (filler : α) : List α → Nat → α → List α
  | [], 0, a => [a]
  | [], n + 1, a => filler :: setAt filler [] n a
  | _ :: rest, 0, a => a :: rest
  | b :: rest, n + 1, a => b :: setAt filler rest n a

/-- The first items of a list, filled up where the list does not have them. -/
def stretch {α : Type} (filler : α) (n : Nat) (items : List α) : List α :=
  (items.rightpad n filler).take n

/-- The cells of a row from the first column on, as far as they were set. -/
abbrev Row := List (Option Cell)

namespace Row

/-- The row with a cell set, if the row has the place. -/
def put (row : Row) (x : Int) (c : Cell) : Row :=
  if x < 0 then row else setAt none row x.toNat (some c)

/-- The row with every cell set from one column up to another one. -/
def fill (c : Cell) (first last : Nat) (row : Row) : Row :=
  if first < last then
    stretch none first row ++ List.replicate (last - first) (some c) ++ row.drop last
  else row

/-- The row with every cell changed that was set. -/
def overwrite (c : Cell) (row : Row) : Row := row.map fun cell => cell.map fun _ => c

/-- The row without the cells from one column up to another one. -/
def forget (first last : Nat) (row : Row) : Row :=
  row.mapIdx fun x cell => if first ≤ x && x < last then none else cell

end Row

/-- A screen. -/
structure Screen where
  /-- The number of columns. -/
  cols : Int
  /-- The number of rows. -/
  rows : Int
  /-- The column that all tab stops are before: the first number of columns. -/
  tabLimit : Int := cols
  /-- The rows that are in use, also those that are out of sight. -/
  lines : List (Option Row) := []
  /-- The column of the cursor. -/
  x : Int := 0
  /-- The row of the cursor. -/
  y : Int := 0
  /-- The style of what comes next. -/
  style : Style := {}
deriving Repr, DecidableEq

namespace Screen

/-- The number of the last row. -/
def lastRow (s : Screen) : Int := s.rows - 1

/-- The number of the last column. -/
def lastColumn (s : Screen) : Int := s.cols - 1

/-- The cells that are in sight, by rows. -/
def cells (s : Screen) : List (List Cell) :=
  (stretch none s.rows.toNat s.lines).map fun row =>
    (stretch none s.cols.toNat (row.getD [])).map fun cell => cell.getD {}

/-- The screen with a row changed, which is then in use. -/
def changeRow (s : Screen) (y : Int) (f : Row → Row) : Screen :=
  if y < 0 then s
  else
    let row := ((s.lines[y.toNat]?).join).getD []
    { s with lines := setAt none s.lines y.toNat (some (f row)) }

/-- The screen with every row from one up to another one changed, which are then in use. -/
def changeRows (s : Screen) (first last : Int) (f : Row → Row) : Screen :=
  let change (y : Nat) (row : Option Row) : Option Row :=
    if first ≤ y && y < last then some (f (row.getD [])) else row
  if first < last then { s with lines := (s.lines.rightpad last.toNat none).mapIdx change } else s

/-- The screen after its rows were read. -/
def useRows (s : Screen) : Screen := s.changeRows 0 s.rows id

/-- The screen scrolled by one row: the first one goes, and an unused one comes in below. The rows
that moved are in use. -/
def scroll (s : Screen) : Screen :=
  let count := s.rows.toNat
  let moved := ((stretch none count s.lines).drop 1).map fun row => some (row.getD [])
  let added := if count = 0 then [] else [none]
  { s with lines := moved ++ added ++ s.lines.drop count }

/-- Drops the first rows. The place of a row goes to the row `count` rows below; where that one is
not in use, one of the first rows stays. -/
def dropRows (s : Screen) (count : Nat) : Screen :=
  let height := s.rows.toNat
  let shown := stretch none height s.lines
  let below := stretch none height (shown.drop count)
  let replace (y : Nat) (pair : Option Row × Option Row) : Option Row :=
    match pair with
    | (_, some row) => some row
    | (here, none) => if y < count && y + count < height then here else none
  { s with lines := (shown.zip below).mapIdx replace ++ s.lines.drop height }

/-! ## The cursor -/

/-- The cursor inside the columns. -/
def clampColumn (s : Screen) : Screen := { s with x := min (max 0 s.x) s.lastColumn }

/-- The cursor inside the rows. -/
def clampRow (s : Screen) : Screen := { s with y := min (max 0 s.y) s.lastRow }

/-- The cursor at a place, as far as the screen has it. -/
def goTo (s : Screen) (y x : Int) : Screen := ({ s with x, y }.clampColumn).clampRow

/-- A screen of a size, with the cursor in the first row and column. -/
def ofSize (cols rows : Int) : Screen := ({ cols, rows } : Screen).goTo 0 0

/-- The cursor some rows up. -/
def up (s : Screen) (n : Nat) : Screen := { s with y := max (s.y - n) 0 }

/-- The cursor some rows down. -/
def down (s : Screen) (n : Nat) : Screen := { s with y := min (s.y + n) s.lastRow }

/-- The cursor some columns on. -/
def forward (s : Screen) (n : Nat) : Screen := { s with x := s.x + n }.clampColumn

/-- The cursor some columns back. From behind the last column it first goes to the last one. -/
def back (s : Screen) (n : Nat) : Screen :=
  { s with x := (if s.x = s.cols then s.x - 1 else s.x) - n }.clampColumn

/-- The cursor in the next row; in the last one the screen is scrolled instead. -/
def lineFeed (s : Screen) : Screen := if s.y = s.lastRow then s.scroll else s.down 1

/-- The columns between two tab stops. -/
def tabWidth : Int := 8

/-- The cursor at the next tab stop, or else in the last column. -/
def tab (s : Screen) : Screen :=
  let stop := (max s.x 0 / tabWidth + 1) * tabWidth
  { s with x := if stop < s.tabLimit then stop else s.lastColumn }

/-! ## Cells -/

/-- Shows a character. A wide one takes a second cell if the row has it. -/
def draw (s : Screen) (c : Char) : Screen :=
  let s := if s.x = s.cols then { s with x := 0 }.lineFeed else s
  let drawn := s.changeRow s.y fun row =>
    let row := row.put s.x ⟨[c], s.style⟩
    if width c = 2 && s.x + 1 < s.cols then row.put (s.x + 1) ⟨[], s.style⟩ else row
  { drawn with x := min (s.x + width c) s.cols }

/-- The blank of the current style, which erased cells become. -/
def blank (s : Screen) : Cell := ⟨[' '], s.style⟩

/-- Erases the cells of the row of the cursor from one column up to another one. -/
def eraseColumns (s : Screen) (first last : Int) : Screen :=
  s.changeRow s.y (Row.fill s.blank first.toNat last.toNat)

/-- Erases part of the row of the cursor: from the cursor on, up to the cursor, or all of it. A row
in which another part was to be erased is in use as well. -/
def eraseInLine (s : Screen) : Nat → Screen × Except Refusal Unit
  | 0 => (s.eraseColumns s.x s.cols, .ok ())
  | 1 => (s.eraseColumns 0 (s.x + 1), .ok ())
  | 2 => (s.eraseColumns 0 s.cols, .ok ())
  | _ => (s.changeRow s.y id, .error .part)

/-- Erases the cells that were set in rows from one up to another one. -/
def eraseRows (s : Screen) (first last : Int) : Screen :=
  s.changeRows first last (Row.overwrite s.blank)

/-- Erases part of the screen: from the cursor on, up to the cursor, or all of it. -/
def eraseInDisplay (s : Screen) : Nat → Screen × Except Refusal Unit
  | 0 => (s.eraseRows (s.y + 1) s.rows).eraseInLine 0
  | 1 => (s.eraseRows 0 s.y).eraseInLine 1
  | 2 => (s.eraseRows 0 s.rows, .ok ())
  | 3 => (s.eraseRows 0 s.rows, .ok ())
  | _ => (s, .error .part)

/-! ## Commands -/

/-- What the terminal answers to a question about its state. -/
def report (s : Screen) : Nat → Text
  | 5 => Terminal.controlSequence "0" "n"
  | 6 => Terminal.controlSequence s!"{s.y + 1};{s.x + 1}" "R"
  | _ => []

/-- What the terminal answers to a question about its kind. -/
def identify : Nat → Text
  | 0 => Terminal.controlSequence "?6" "c"
  | _ => []

/-- Does what a control sequence says; gives the screen and the answer. -/
def obey (s : Screen) (parameters : List Nat) (final : Char) : Screen × Except Refusal Text :=
  let first : Nat := parameters.headD 0
  let second : Nat := (parameters[1]?).getD 0
  let count : Nat := max first 1
  let silently (t : Screen) : Screen × Except Refusal Text := (t, .ok [])
  let erased (t : Screen × Except Refusal Unit) : Screen × Except Refusal Text :=
    (t.1, t.2.map fun _ => [])
  match final with
  | 'A' => silently (s.up count)
  | 'B' => silently (s.down count)
  | 'C' => silently (s.forward count)
  | 'D' => silently (s.back count)
  | 'H' => silently (s.goTo (count - 1 : Nat) (second - 1 : Nat))
  | 'J' => erased (s.eraseInDisplay first)
  | 'K' => erased (s.eraseInLine first)
  | 'm' => silently { s with style := s.style.selectAll parameters }
  | 'n' => (s, .ok (s.report first))
  | 'c' => (s, .ok (identify first))
  | _ => silently s

/-- Whether sequences of a kind take a mark and a number of parameters. -/
def takes (marked : Bool) (count : Nat) (final : Char) : Bool :=
  if "ABCDn".toList.contains final then !marked && count ≤ 1
  else if final = 'H' then !marked && count ≤ 2
  else if final = 'K' then if marked then count ≤ 1 else count ≤ 2
  else if final = 'c' then count ≤ 1
  else if final = 'm' then !marked
  else true

/-- Carries out a command; gives the screen and the answer. A question about the kind of the
terminal has none if it is marked. -/
def perform (s : Screen) : Command → Screen × Except Refusal Text
  | .draw c => (s.draw c, .ok [])
  | .carriageReturn => ({ s with x := 0 }, .ok [])
  | .lineFeed => (s.lineFeed, .ok [])
  | .backspace => (s.back 1, .ok [])
  | .tab => (s.tab, .ok [])
  | .control marked parameters final =>
    if !takes marked parameters.length final then (s, .error .form)
    else if marked && final = 'c' then (s, .ok [])
    else s.obey parameters final

/-! ## Sizes -/

/-- The screen of another size; zero leaves a size as it is. With fewer rows the first ones go, and
the cursor stays within the old size; with fewer columns the last ones go. -/
def resize (s : Screen) (cols rows : Int) : Screen :=
  let cols := if cols = 0 then s.cols else cols
  let rows := if rows = 0 then s.rows else rows
  let lower :=
    if rows < s.rows then ((s.dropRows (s.rows - rows).toNat).clampColumn).clampRow else s
  let narrow := lower.lines.map fun row => row.map (Row.forget cols.toNat s.cols.toNat)
  { lower with cols, rows, lines := if cols < s.cols then narrow else lower.lines }

end Screen

end TermPilot.Emulator
