import TermPilot.Number.Numeral
import TermPilot.Screen.Clean

/-!
# Colours in a screen dump

Colours are set by SGR sequences, `CSI` parameters `m`, whose parameters are separated by
semicolons or colons. A colour is given by its three components after `38;2` or `48;2`, where an
empty colour space may come first, or by its number in a palette after `38;5` or `48;5`.
-/

namespace TermPilot.Screen

open Terminal

/-- Red, green and blue, each at most 255. -/
structure Rgb where
  /-- The red component. -/
  red : Nat
  /-- The green component. -/
  green : Nat
  /-- The blue component. -/
  blue : Nat
deriving Repr, DecidableEq

/-- What follows the parameter 38 or 48. -/
structure ColourSpec where
  /-- The components, if they are given. -/
  rgb : Option Rgb
  /-- The number in the palette, if it is given. -/
  palette : Option Nat
  /-- How many parameters have been used. -/
  used : Nat
deriving Repr, DecidableEq

/-- A foreground or background colour set by a sequence. -/
structure Colour where
  /-- The whole sequence. -/
  raw : Text
  /-- Whether the foreground is set. -/
  foreground : Bool
  /-- The components, if they are given. -/
  rgb : Option Rgb
  /-- The number in the palette, if it is given. -/
  palette : Option Nat
deriving Repr, DecidableEq

/-- A character of SGR parameters. -/
def isSgrParameter (c : Char) : Bool := c.isDigit || c = ';' || c = ':'

/-- The parameters of a sequence at the start of a text that is an SGR sequence. -/
def cutSgr? (t : Text) : Option (Text × Text) :=
  match t with
  | e :: '[' :: rest =>
    if e = esc then
      match rest.dropWhile isSgrParameter with
      | 'm' :: after => some (rest.takeWhile isSgrParameter, after)
      | _ => none
    else none
  | _ => none

/-- The parameters of a text that is an SGR sequence as a whole. -/
def sgrParameters? (t : Text) : Option Text :=
  match cutSgr? t with
  | some (parameters, []) => some parameters
  | _ => none

/-- The single parameters; none at all of an empty text. -/
def splitParameters (parameters : Text) : List Text :=
  if parameters.isEmpty then [] else Text.splitOn ';' (Text.replaceChar ':' ';' parameters)

/-- The number of at most 255 that a parameter is. -/
def byte? (parameter : Text) : Except NumeralError (Option Nat) :=
  if Text.isNumeral parameter then do
    let n ← Numeral.plain parameter
    return if n ≤ 255 then some n else none
  else return none

/-- The colour that three parameters give. -/
def rgb? (components : List Text) : Except NumeralError (Option Rgb) := do
  match ← components.mapM byte? with
  | [some red, some green, some blue] => return some ⟨red, green, blue⟩
  | _ => return none

/-- What the parameters after 38 or 48 say. -/
def colourSpec (parameters : List Text) : Except NumeralError ColourSpec :=
  match parameters with
  | [] => return ⟨none, none, 0⟩
  | model :: rest =>
    if model = ['2'] then do
      let components :=
        match rest with
        | [] :: r :: g :: b :: _ => [r, g, b]
        | _ => rest.take 3
      match ← rgb? components with
      | some rgb => return ⟨some rgb, none, 1 + components.length⟩
      | none => return ⟨none, none, 1⟩
    else if model = ['5'] then
      match rest with
      | index :: _ => do
        match ← byte? index with
        | some n => return ⟨none, some n, 2⟩
        | none => return ⟨none, none, 1⟩
      | [] => return ⟨none, none, 1⟩
    else return ⟨none, none, 1⟩

/-- The first parameter that introduces a colour (whether it is the foreground) and what follows. -/
def firstColour? : List Text → Option (Bool × List Text)
  | [] => none
  | p :: rest =>
    if p = "38".toList then some (true, rest)
    else if p = "48".toList then some (false, rest)
    else firstColour? rest

/-- The colour that a sequence sets, if it sets one. -/
def Colour.parse (raw : Text) : Except NumeralError (Option Colour) :=
  match (sgrParameters? raw).bind fun parameters => firstColour? (splitParameters parameters) with
  | none => return none
  | some (foreground, rest) => do
    let spec ← colourSpec rest
    return some ⟨raw, foreground, spec.rgb, spec.palette⟩

/-- The SGR sequences of a line, from left to right. -/
def sgrSequences : Text → List Text
  | [] => []
  | c :: rest =>
    match cutSgr? (c :: rest) with
    | some (parameters, _) => (esc :: '[' :: parameters ++ ['m']) :: sgrSequences rest
    | none => sgrSequences rest

/-- The sequences that set a colour, each once, added to those found before. -/
def distinctColours (found : List Text) : List Text → Except NumeralError (List Text)
  | [] => return found
  | raw :: rest => do
    if found.contains raw then distinctColours found rest
    else match ← Colour.parse raw with
      | some ⟨_, _, none, none⟩ => distinctColours found rest
      | some _ => distinctColours (found ++ [raw]) rest
      | none => distinctColours found rest

/-- The different colour-setting sequences of a line, in order. -/
def lineColours (line : Text) : Except NumeralError (List Text) :=
  distinctColours [] (sgrSequences line)

/-- The line of a dump with the given number, if there is one. -/
def row? (t : Text) (row : Int) : Option Text := if row < 0 then none else (lines t)[row.toNat]?

/-- The different colour-setting sequences on a row of a dump. -/
def rowColours (raw : Text) (row : Int) : Except NumeralError (List Text) :=
  match row? raw row with
  | some line => lineColours line
  | none => return []

/-- The colours set on a row of a dump. -/
def rowColoursParsed (raw : Text) (row : Int) : Except NumeralError (List Colour) := do
  let parsed ← (← rowColours raw row).mapM Colour.parse
  return parsed.filterMap id

/-! ## The foreground at a text -/

/-- The foreground after SGR parameters, of which the first `skip` belong to an earlier one. -/
def foregroundAfter (skip : Nat) (current : Option Rgb) :
    List Text → Except NumeralError (Option Rgb)
  | [] => return current
  | p :: rest =>
    match skip with
    | skip + 1 => foregroundAfter skip current rest
    | 0 =>
      if p = [] ∨ p = ['0'] ∨ p = "39".toList then foregroundAfter 0 none rest
      else if p = "38".toList ∨ p = "48".toList then do
        let spec ← colourSpec rest
        foregroundAfter spec.used (if p = "38".toList then spec.rgb else current) rest
      else foregroundAfter 0 current rest

/-- The foreground after an SGR sequence; one without parameters resets it. -/
def applyForeground (parameters : List Text) (current : Option Rgb) :
    Except NumeralError (Option Rgb) :=
  if parameters.isEmpty then return none else foregroundAfter 0 current parameters

/-- The foreground where the text shown so far, given backwards, first ends in `needle`. -/
def foregroundFrom (needle shown : Text) (current : Option Rgb) :
    List Piece → Except NumeralError (Option Rgb)
  | [] => return none
  | .char c :: rest =>
    let shown := c :: shown
    if needle.reverse.isPrefixOf shown then return current
    else foregroundFrom needle shown current rest
  | .sequence raw :: rest =>
    match sgrParameters? raw with
    | some parameters => do
      let next ← applyForeground (splitParameters parameters) current
      foregroundFrom needle shown next rest
    | none => foregroundFrom needle shown current rest

/-- The foreground in effect at the last character of the first place that shows `needle`. -/
def foregroundAt (line needle : Text) : Except NumeralError (Option Rgb) :=
  foregroundFrom needle [] none (pieces line)

end TermPilot.Screen
