import TermPilot.Files.Contents
import TermPilot.Files.Error
import TermPilot.Files.Path

/-!
# Stores of files

The files and directories below one directory, the home of the store. Above it there are only the
directories that lead to it, and of them nothing is known but that they are there.
-/

namespace TermPilot

/-- A file or a directory. -/
inductive FileNode where
  /-- A file and its bytes. -/
  | file (bytes : List UInt8)
  /-- A directory. -/
  | directory
deriving Repr, DecidableEq

/-- A place among the files: the parts that lead to it from the home. Places that are not below the
home begin with two points for each step up, or with a slash for the root. -/
abbrev FilePlace := List Text

namespace FilePlace

/-- The part that leads up. -/
def up : Text := "..".toList

/-- The root. -/
def root : FilePlace := [['/']]

/-- Whether a place is the home, above it, or the root. -/
def isBase (place : FilePlace) : Bool := place.all (· == up) || place == root

/-- The place that a part leads to. -/
def step (place : FilePlace) (part : Text) : FilePlace :=
  if part == up then
    if place == root then root
    else if place.isBase then place ++ [up]
    else place.dropLast
  else place ++ [part]

end FilePlace

/-- Files and directories by their places. -/
structure FileStore where
  /-- The path of the home. -/
  home : Path
  /-- The files and directories, apart from the home and what leads to it. -/
  nodes : List (FilePlace × FileNode) := []
  /-- The place that relative paths start from. -/
  start : FilePlace := []

namespace FileStore

/-- What is at a place. -/
def node? (s : FileStore) (place : FilePlace) : Option FileNode :=
  if place.isBase then some .directory
  else (s.nodes.find? fun (p, _) => p = place).map Prod.snd

/-- The files below the home. -/
def files (s : FileStore) : List (FilePlace × List UInt8) :=
  s.nodes.filterMap fun (place, node) => match node with
    | .file bytes =>
      if place.head? = some FilePlace.up ∨ place.head? = FilePlace.root.head? then none
      else some (place, bytes)
    | .directory => none

/-- The store with a node at a place, instead of what was there. -/
def put (s : FileStore) (place : FilePlace) (node : FileNode) : FileStore :=
  if s.nodes.any fun (p, _) => p = place then
    { s with nodes := s.nodes.map fun (p, n) => if p = place then (p, node) else (p, n) }
  else { s with nodes := s.nodes ++ [(place, node)] }

/-- The greatest number of bytes in a part of a path. -/
def maxPartBytes : Nat := 255

/-- The greatest number of bytes in a path. -/
def maxPathBytes : Nat := 4095

/-- The place that parts lead to from `here`. All but the last have to lead to directories. -/
def walk (s : FileStore) (here : FilePlace) : List Text → Except FileError FilePlace
  | [] => .ok here
  | part :: rest =>
    match s.node? here with
    | some .directory =>
      if (Text.Utf8.encode part).length > maxPartBytes then .error .nameTooLong
      else s.walk (here.step part) rest
    | some (.file _) => .error .notADirectory
    | none => .error .notFound

/-- The place where the parts of a path start, and the parts. -/
def startOf (s : FileStore) (path : Path) : FilePlace × List Text :=
  if path.isAbsolute = s.home.isAbsolute ∧ s.home.parts.isPrefixOf path.parts then
    ([], path.parts.drop s.home.parts.length)
  else (if path.isAbsolute then FilePlace.root else s.start, path.parts)

/-- Whether the text of a path can be one at all. -/
def checkText (path : Path) : Except FileError Unit :=
  if path.parts.any fun part => part.contains (Char.ofNat 0) then .error .nulInPath
  else if (Text.Utf8.encode path.text).length > maxPathBytes then .error .nameTooLong
  else .ok ()

/-- The place of a path. -/
def locate (s : FileStore) (path : Path) : Except FileError FilePlace := do
  checkText path
  let (here, parts) := s.startOf path
  s.walk here parts

/-- What a path leads to. -/
def find (s : FileStore) (path : Path) : Except FileError FileNode := do
  match s.node? (← s.locate path) with
  | some node => return node
  | none => throw .notFound

/-- Whether a path leads to a file or a directory. It is an error only if that cannot be told. -/
def contains (s : FileStore) (path : Path) : Except FileError Bool :=
  match s.find path with
  | .ok _ => .ok true
  | .error .nameTooLong => .error .nameTooLong
  | .error _ => .ok false

/-- The bytes of a file. -/
def read (s : FileStore) (path : Path) : Except FileError (List UInt8) := do
  match ← s.find path with
  | .file bytes => return bytes
  | .directory => throw .isADirectory

/-- The place where a file can be written, and the bytes that are there. -/
def writable (s : FileStore) (path : Path) : Except FileError (FilePlace × List UInt8) := do
  let place ← s.locate path
  match s.node? place with
  | some (.file bytes) => return (place, bytes)
  | some .directory => throw .isADirectory
  | none => match s.node? place.dropLast with
    | some .directory => return (place, [])
    | some (.file _) => throw .notADirectory
    | none => throw .notFound

/-- Writes a file anew. -/
def write (s : FileStore) (path : Path) (bytes : List UInt8) : Except FileError FileStore := do
  return s.put (← s.writable path).1 (.file bytes)

/-- Writes to the end of a file, which need not be there. -/
def appendTo (s : FileStore) (path : Path) (bytes : List UInt8) : Except FileError FileStore := do
  let (place, old) ← s.writable path
  return s.put place (.file (old ++ bytes))

/-- Removes a file. -/
def remove (s : FileStore) (path : Path) : Except FileError FileStore := do
  let place ← s.locate path
  match s.node? place with
  | some (.file _) => return { s with nodes := s.nodes.filter fun (p, _) => p ≠ place }
  | some .directory => throw .isADirectory
  | none => throw .notFound

/-- Makes the directories that parts lead to from `here`, as far as they are missing. Those that are
made before an error stay. -/
def makeFrom (s : FileStore) (here : FilePlace) :
    List Text → FileStore × Except FileError Unit
  | [] => (s, .ok ())
  | part :: rest =>
    let next := here.step part
    if (Text.Utf8.encode part).length > maxPartBytes then (s, .error .nameTooLong)
    else match s.node? next with
      | some .directory => s.makeFrom next rest
      | some (.file _) => (s, .error (if rest.isEmpty then .alreadyExists else .notADirectory))
      | none => (s.put next .directory).makeFrom next rest

/-- Makes a directory and those above it, as far as they are missing. -/
def makeDirectories (s : FileStore) (path : Path) : FileStore × Except FileError Unit :=
  match checkText path with
  | .error error => (s, .error error)
  | .ok () =>
    let (here, parts) := s.startOf path
    s.makeFrom here parts

/-- Makes the directories above a path and then changes the store. The directories stay also if the
change fails. -/
def changeBelow {α : Type} (s : FileStore) (directory : Path)
    (change : FileStore → Except FileError (FileStore × α)) : FileStore × Except FileError α :=
  match s.makeDirectories directory with
  | (made, .error error) => (made, .error error)
  | (made, .ok ()) => match change made with
    | .error error => (made, .error error)
    | .ok (changed, value) => (changed, .ok value)

/-- Puts a file below the home, together with the directories above it. -/
def withFile (s : FileStore) (name : Text) (bytes : List UInt8) : FileStore :=
  let path := s.home.child name
  (s.changeBelow path.parent fun made => return (← made.write path bytes, ())).1

end FileStore

end TermPilot
