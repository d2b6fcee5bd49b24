/-!
# Text

A text is a list of characters (Unicode code points), so that every column, cut and count of this
library is a column, cut or count of characters. Strings are used for fixed words and for finished
messages only; `Text.string` and `String.toList` lead from one to the other.
-/

namespace TermPilot

/-- A text, as the list of its characters. -/
abbrev Text := List Char

namespace Text

/-- The text as a string, for messages. -/
def string (t : Text) : String := String.ofList t

/-- Whether `needle` occurs somewhere in the text. -/
def occursIn (needle : Text) : Text → Bool
  | [] => needle.isEmpty
  | c :: rest => needle.isPrefixOf (c :: rest) || occursIn needle rest

/-- What follows `start` in a text that starts with it. -/
def dropStart? (start t : Text) : Option Text :=
  if start.isPrefixOf t then some (t.drop start.length) else none

/-- The parts of the text before and after the first `sep`, if there is one. -/
def cutAt (sep : Char) : Text → Option (Text × Text)
  | [] => none
  | c :: rest =>
    if c = sep then some ([], rest)
    else (cutAt sep rest).map fun (before, after) => (c :: before, after)

/-- The parts of the text between the occurrences of `sep`: one more than there are `sep`s. -/
def splitOn (sep : Char) : Text → List Text
  | [] => [[]]
  | c :: rest =>
    if c = sep then [] :: splitOn sep rest
    else match splitOn sep rest with
      | [] => [[c]]
      | part :: parts => (c :: part) :: parts

/-- The texts one after the other, with `sep` between neighbours. -/
def join (sep : Text) (parts : List Text) : Text := List.intercalate sep parts

/-- The text without the longest run of characters satisfying `p` at its end. -/
def dropWhileEnd (p : Char → Bool) (t : Text) : Text := (t.reverse.dropWhile p).reverse

/-- The last `n` characters of the text, or all of it when it is shorter. -/
def takeEnd (n : Nat) (t : Text) : Text := t.drop (t.length - n)

/-- The text without one `c` at its end, if it ends in one. -/
def dropLastChar (c : Char) (t : Text) : Text := if t.getLast? = some c then t.dropLast else t

/-- The text with every `old` replaced by `new`. -/
def replaceChar (old new : Char) (t : Text) : Text := t.map fun c => if c = old then new else c

/-- The text with every pair of carriage return and line feed replaced by one line feed. -/
def unixLineEnds : Text → Text
  | [] => []
  | '\r' :: '\n' :: rest => '\n' :: unixLineEnds rest
  | c :: rest => c :: unixLineEnds rest

/-- Whether `c` lies in one of the closed ranges of code points. -/
def inRanges (ranges : List (Nat × Nat)) (c : Char) : Bool :=
  ranges.any fun (low, high) => low ≤ c.toNat && c.toNat ≤ high

theorem splitOn_ne_nil (sep : Char) (t : Text) : splitOn sep t ≠ [] := by
  cases t with
  | nil => simp [splitOn]
  | cons c rest =>
    simp only [splitOn]
    split
    · simp
    · split <;> simp

end Text

end TermPilot
