import TermPilot.Text.Basic

/-!
# Paths

A path is kept without empty parts and without parts that are a single point; two points stay,
since what they lead to depends on the files.
-/

namespace TermPilot

/-- A path. -/
structure Path where
  /-- What comes before the parts: nothing, one slash or two slashes. -/
  root : Text
  /-- The parts between slashes. -/
  parts : List Text
deriving Repr, DecidableEq

namespace Path

/-- The path that a text stands for. Two slashes in front are kept, more count as one. -/
def ofText (t : Text) : Path :=
  let slashes := (t.takeWhile (· = '/')).length
  let root := if slashes = 0 then [] else if slashes = 2 then ['/', '/'] else ['/']
  ⟨root, (Text.splitOn '/' t).filter fun part => !part.isEmpty && part != ['.']⟩

/-- The text of a path; the path without parts is a point. -/
def text (p : Path) : Text :=
  let t := p.root ++ Text.join ['/'] p.parts
  if t.isEmpty then ['.'] else t

/-- Whether a path begins at the root. -/
def isAbsolute (p : Path) : Bool := !p.root.isEmpty

/-- The path that leads to where `p` leads. -/
def parent (p : Path) : Path := { p with parts := p.parts.dropLast }

/-- The path `q` as seen from `p`. -/
def append (p q : Path) : Path := if q.isAbsolute then q else { p with parts := p.parts ++ q.parts }

/-- The path of a name below `p`. -/
def child (p : Path) (name : Text) : Path := p.append (ofText name)

end Path

end TermPilot
