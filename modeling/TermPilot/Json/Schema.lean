import TermPilot.Json.Basic

/-!
# Schemas

A schema says what a document must look like: the types of its parts, their least values and
sizes, and the members that an object has to have. Members that a record does not name are refused.
The forms stand for the keywords of jsonschema that the schemas of this library are written with.
That library is no part of this one; what its keywords mean is taken from their specification, and
proofs use it by the lemmas of `Proofs.Json.Schema`.
-/

namespace TermPilot

/-- The least value of a number. -/
inductive LowerBound where
  /-- Zero or more. -/
  | zero
  /-- More than zero. -/
  | positive
deriving Repr, DecidableEq

/-- What a document must look like. -/
inductive Schema where
  /-- A text of at least `least` characters. -/
  | text (least : Nat)
  /-- One of the given texts. -/
  | word (choices : List Text)
  /-- A truth value. -/
  | bool
  /-- A number within its bound. -/
  | number (bound : LowerBound)
  /-- A whole number of at least one, possibly written as a real. -/
  | count
  /-- A sequence of at least `least` items. -/
  | list (item : Schema) (least : Nat)
  /-- An object with values of one kind. -/
  | map (value : Schema)
  /-- An object with the given members only, of which some are required. -/
  | record (fields : List (Text × Schema)) (required : List Text)
  /-- An object with exactly one of two members. -/
  | eitherMember (first second : Text)
  /-- An object with at least one member. -/
  | someMember
  /-- Both schemas hold. -/
  | both (first second : Schema)
  /-- Exactly one of the schemas holds. -/
  | oneOf (choices : List Schema)
deriving Inhabited

namespace Json

/-- Whether a number is within the bound. Something that is no number is below no bound. -/
def withinBound : LowerBound → Json → Bool
  | .zero, .int n => decide (0 ≤ n)
  | .positive, .int n => decide (0 < n)
  | .zero, .real x => !(x < 0)
  | .positive, .real x => !(x ≤ 0)
  | _, _ => false

/-- Whether the object has a member of the name. -/
def hasMember (key : Text) (members : List (Text × Json)) : Bool := (find? key members).isSome

end Json

namespace Schema

open Json

mutual
/-- Whether a document satisfies a schema. -/
def accepts : Schema → Json → Bool
  | .text least, .str t => decide (least ≤ t.length)
  | .word choices, .str t => choices.contains t
  | .bool, .bool _ => true
  | .number bound, v => withinBound bound v
  | .count, v => match whole? v with
    | some n => decide (1 ≤ n)
    | none => false
  | .list item least, .arr items => decide (least ≤ items.length) && items.all (accepts item)
  | .map value, .obj members => members.all fun (_, v) => accepts value v
  | .record fields required, .obj members =>
    required.all (hasMember · members) &&
      members.all (fun (key, _) => fields.any fun (name, _) => name = key) &&
      acceptsFields fields members
  | .eitherMember first second, .obj members => hasMember first members != hasMember second members
  | .someMember, .obj members => !members.isEmpty
  | .both first second, v => accepts first v && accepts second v
  | .oneOf choices, v => acceptingChoices choices v = 1
  | _, _ => false

/-- Whether the members that are there satisfy the schemas of their names. -/
def acceptsFields : List (Text × Schema) → List (Text × Json) → Bool
  | [], _ => true
  | (name, schema) :: fields, members =>
    (match find? name members with
      | some v => accepts schema v
      | none => true) && acceptsFields fields members

/-- How many of the schemas a document satisfies. -/
def acceptingChoices : List Schema → Json → Nat
  | [], _ => 0
  | choice :: choices, v => (if accepts choice v then 1 else 0) + acceptingChoices choices v
end

end Schema

end TermPilot
