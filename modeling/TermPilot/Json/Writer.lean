import TermPilot.Json.Basic

/-!
# Writing JSON

A document on one line, without spaces. Characters beyond ASCII are written as they are. Infinities
and NaN are written with the words that the reader takes for them.
-/

namespace TermPilot.Json

/-- A character inside a JSON text. -/
def writtenChar (c : Char) : Text :=
  if c = '"' || c = '\\' then ['\\', c]
  else if c.toNat < 0x20 then '\\' :: 'u' :: Text.hexDigits 4 c.toNat
  else [c]

/-- A JSON text between its quotes. -/
def writtenText (t : Text) : Text := '"' :: t.flatMap writtenChar ++ ['"']

/-- A real. -/
def writtenReal (x : Float) : Text :=
  if x.isNaN then "NaN".toList
  else if x.isInf then if x > 0 then "Infinity".toList else "-Infinity".toList
  else Double.shortest x

mutual
/-- The document on one line. -/
def write : Json → Text
  | .null => "null".toList
  | .bool b => if b then "true".toList else "false".toList
  | .int n => (toString n).toList
  | .real x => writtenReal x
  | .str t => writtenText t
  | .arr items => '[' :: Text.join [','] (writeItems items) ++ [']']
  | .obj members => '{' :: Text.join [','] (writeMembers members) ++ ['}']

/-- The items of a sequence. -/
def writeItems : List Json → List Text
  | [] => []
  | item :: items => write item :: writeItems items

/-- The members of an object. -/
def writeMembers : List (Text × Json) → List Text
  | [] => []
  | (key, value) :: members =>
    (writtenText key ++ ':' :: write value) :: writeMembers members
end

end TermPilot.Json
