import TermPilot.Dump.Wrapped
import TermPilot.Number.Numeral

/-!
# Reading a dump

A dump has one command a line. Only two of them tell what the wrapped program printed: text that is
drawn, and line feeds. Text that begins with the marker is the status of the program.
-/

namespace TermPilot.Dump

/-- What a line of a dump tells. -/
inductive Item where
  /-- The program printed a text. -/
  | printed (text : Text)
  /-- The program ended; its status is missing if what follows the marker is no number. -/
  | ended (status : Option Int)
  /-- Nothing about the program. -/
  | other

/-- The status that follows the marker. -/
def statusOf (t : Text) : Option Int := (Numeral.whole t).toOption

/-- What a line tells. Line feeds at its end do not count. -/
def Item.ofLine (line : Text) : Item :=
  let line := Text.dropWhileEnd (· = '\n') line
  match Text.dropStart? "draw ".toList line with
  | some text => match Text.dropStart? marker.toList text with
    | some status => .ended (statusOf status)
    | none => .printed text
  | none => if line = "screen_linefeed".toList then .printed ['\n'] else .other

/-- The printed text of an item. -/
def Item.text : Item → Text
  | .printed text => text
  | _ => []

/-- What an item tells about the status. -/
def Item.status? : Item → Option (Option Int)
  | .ended status => some status
  | _ => none

/-- The status that the last item with one tells. -/
def lastStatus (items : List Item) : Option Int := (items.filterMap Item.status?).getLast?.join

/-- Whether a character belongs to a line end. -/
def isLineEnd (c : Char) : Bool := c = '\r' || c = '\n'

/-- The text without the line ends around it. -/
def trimLineEnds (t : Text) : Text := Text.dropWhileEnd isLineEnd (t.dropWhile isLineEnd)

/-- The text that the lines of a dump say was printed, without the line ends around it, and the
status of the program. -/
def read (lines : List Text) : Text × Option Int :=
  let items := lines.map Item.ofLine
  (trimLineEnds (items.flatMap Item.text), lastStatus items)

end TermPilot.Dump
