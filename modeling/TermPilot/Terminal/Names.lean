import TermPilot.Text.Case

/-!
# Fresh names

Sessions, sockets, log files and markers get names that no other has: a stem, the number of the
process, and a number that is counted up.
-/

namespace TermPilot

/-- A source of names. -/
structure NameSource where
  /-- What every name begins with. -/
  stem : Text
  /-- The number of the process. -/
  process : Int
  /-- The number of the next name. -/
  next : Nat := 0
deriving Repr, DecidableEq

namespace NameSource

/-- The name with a number. -/
def nameOf (source : NameSource) (number : Nat) : Text :=
  source.stem ++ s!"-{source.process}-{number}".toList

/-- A fresh name. -/
def fresh (source : NameSource) : Text × NameSource :=
  (source.nameOf source.next, { source with next := source.next + 1 })

/-- The marker made of a name: its upper case, with low lines for hyphens. -/
def markerOf (name : Text) : Text :=
  "__".toList ++ Text.replaceChar '-' '_' (Text.upper name) ++ "_READY__".toList

/-- A fresh marker. -/
def freshMarker (source : NameSource) : Text × NameSource :=
  let (name, source) := source.fresh
  (markerOf name, source)

end NameSource

end TermPilot
