import TermPilot.Json.Basic
import TermPilot.Kitty.Error

/-!
# Listings of windows

Kitty lists its windows as a JSON document: a list of operating system windows with tabs, which have
windows, which have identifiers.
-/

namespace TermPilot.Kitty

/-- The parts of a value that stands where a list belongs: of an object its keys, of a text its
characters. -/
def parts : Json → Except ListingError (List Json)
  | .arr items => .ok items
  | .obj members => .ok (members.map fun (key, _) => .str key)
  | .str text => .ok (text.map fun c => .str [c])
  | _ => .error .notAList

/-- The parts of a member of an object; a missing member has none. -/
def partsOf (key : String) : Json → Except ListingError (List Json)
  | .obj members => match Json.find? key.toList members with
    | some value => parts value
    | none => .ok []
  | _ => .error .notAnObject

/-- The identifier of a window. -/
def identifier : Json → Except ListingError Json
  | .obj members => match Json.find? "id".toList members with
    | some value => .ok value
    | none => .error .noIdentifier
  | _ => .error .notAWindow

/-- What `f` gives for each value, joined; the first error ends it. -/
def collect (f : Json → Except ListingError (List Json)) :
    List Json → Except ListingError (List Json)
  | [] => .ok []
  | value :: rest => do
    let here ← f value
    return here ++ (← collect f rest)

/-- The identifiers of the windows of a tab. -/
def tabWindows (tab : Json) : Except ListingError (List Json) := do
  (← partsOf "windows" tab).mapM identifier

/-- The identifiers of the windows of an operating system window. -/
def osWindows (window : Json) : Except ListingError (List Json) := do
  collect tabWindows (← partsOf "tabs" window)

/-- The identifiers of all windows of a listing, in its order. -/
def windowIds (listing : Json) : Except ListingError (List Json) := do
  collect osWindows (← parts listing)

end TermPilot.Kitty
