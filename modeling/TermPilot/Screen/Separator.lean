import TermPilot.Screen.Clean

/-!
# Separators of split layouts

A split screen shows a line of box-drawing characters between its panes. A column or row counts as
a separator when it holds more than five of them.
-/

namespace TermPilot.Screen

/-- The character of a separator between panes side by side. -/
def verticalBar : Char := '│'

/-- The character of a separator between panes one above the other. -/
def horizontalBar : Char := '─'

/-- A separator has more than this number of characters. -/
def separatorThreshold : Nat := 5

/-! ## Places of bars -/

/-- The rows that hold a vertical bar in a column. -/
def barRows (lines : List Text) (col : Nat) : List Nat :=
  (List.range lines.length).filter fun row =>
    ((lines[row]?).bind fun text => text[col]?) == some verticalBar

/-- The rows of a dump that hold a vertical bar in a column. -/
def separatorRowsAt (clean : Text) (col : Int) : List Nat :=
  if col < 0 then [] else barRows (lines clean) col.toNat

/-- The columns of a line that hold a horizontal bar. -/
def barColumns (text : Text) : List Nat :=
  (List.range text.length).filter fun col => text[col]? == some horizontalBar

/-- The columns of a row of a dump that hold a horizontal bar. -/
def separatorColumnsAt (clean : Text) (row : Int) : List Nat :=
  if row < 0 then []
  else match (lines clean)[row.toNat]? with
    | some line => barColumns line
    | none => []

/-! ## Bars side by side -/

/-- How many bars have been counted in each column that holds one, in the order in which the columns
were met. -/
abbrev BarTally := List (Nat × Nat)

/-- The tally with one more bar in a column. -/
def BarTally.increment (col : Nat) : BarTally → BarTally
  | [] => [(col, 1)]
  | (other, count) :: rest =>
    if other = col then (other, count + 1) :: rest
    else (other, count) :: BarTally.increment col rest

/-- The tally with the vertical bars of a line that starts in the column `position`. -/
def BarTally.addLine (position : Nat) (tally : BarTally) : Text → BarTally
  | [] => tally
  | c :: rest =>
    BarTally.addLine (position + 1) (if c = verticalBar then tally.increment position else tally)
      rest

/-- The vertical bars of the lines, counted column by column. -/
def tallyBars (lines : List Text) : BarTally := lines.foldl (BarTally.addLine 0) []

/-- Whether a column holds more bars than another, or as many and stands in front of it. -/
def outranks (column other : Nat × Nat) : Bool :=
  other.2 < column.2 || (column.2 = other.2 && column.1 < other.1)

/-- The column that no other outranks, where `best` is the best one so far. -/
def foremost (best : Nat × Nat) : BarTally → Nat × Nat
  | [] => best
  | column :: rest => foremost (if outranks column best then column else best) rest

/-- The column that holds the most vertical bars, if it is a separator; of several the first. -/
def verticalSeparator? (clean : Text) : Option Nat :=
  match tallyBars (lines clean) with
  | [] => none
  | column :: rest =>
    let (col, count) := foremost column rest
    if separatorThreshold < count then some col else none

/-! ## Bars one above the other -/

/-- The first position with the greatest count, if that is above the threshold. Positions are
numbered from `position`, and `best` is the best one so far. -/
def firstGreatest (position : Nat) (best : Option (Nat × Nat)) : List Nat → Option (Nat × Nat)
  | [] => best
  | count :: rest =>
    let better := separatorThreshold < count && best.all fun (_, greatest) => greatest < count
    firstGreatest (position + 1) (if better then some (position, count) else best) rest

/-- The row that holds the most horizontal bars, if it is a separator; of several the first. -/
def horizontalSeparator? (clean : Text) : Option Nat :=
  (firstGreatest 0 none ((lines clean).map (List.count horizontalBar))).map Prod.fst

end TermPilot.Screen
