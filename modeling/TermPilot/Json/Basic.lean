import TermPilot.Number.Numeral
import TermPilot.Text.Quoted

/-!
# JSON values

Settings, scenarios and window listings are JSON documents. Whole numbers and reals are kept
apart, since `10` and `10.0` are read differently in places, and an object keeps its members in the
order in which their keys first came.
-/

namespace TermPilot

/-- A JSON document. -/
inductive Json where
  /-- The missing value. -/
  | null
  /-- A truth value. -/
  | bool (value : Bool)
  /-- A number written without point and exponent. -/
  | int (value : Int)
  /-- A number written with a point or an exponent, or one of the words for infinities and NaN. -/
  | real (value : Float)
  /-- A text. -/
  | str (value : Text)
  /-- A sequence of values. -/
  | arr (items : List Json)
  /-- Named values. -/
  | obj (members : List (Text × Json))
deriving Inhabited

namespace Json

/-- The members with one more of the given name: a later value of a name takes the place of the
earlier one. -/
def insert (key : Text) (value : Json) : List (Text × Json) → List (Text × Json)
  | [] => [(key, value)]
  | (k, v) :: members =>
    if k = key then (k, value) :: members else (k, v) :: insert key value members

/-- The value of a name among the members. -/
def find? (key : Text) (members : List (Text × Json)) : Option Json :=
  (members.find? fun (k, _) => k = key).map Prod.snd

/-- The member of an object with the given name. -/
def get? (key : String) : Json → Option Json
  | .obj members => find? key.toList members
  | _ => none

/-- The text of a text value. -/
def text? : Json → Option Text
  | .str t => some t
  | _ => none

/-- The truth value of a truth value. -/
def bool? : Json → Option Bool
  | .bool b => some b
  | _ => none

/-- The items of a sequence. -/
def items? : Json → Option (List Json)
  | .arr items => some items
  | _ => none

/-- The members of an object. -/
def members? : Json → Option (List (Text × Json))
  | .obj members => some members
  | _ => none

/-- The whole number that a number is, also when it is written as a real. -/
def whole? : Json → Option Int
  | .int n => some n
  | .real x => match Double.decode x with
    | .finite negative significand exponent =>
      if significand % Nat.pow 2 (-exponent).toNat = 0 then
        let n : Int := (significand * Nat.pow 2 exponent.toNat / Nat.pow 2 (-exponent).toNat : Nat)
        some (if negative then -n else n)
      else none
    | _ => none
  | _ => none

/-- The marks that a sequence is written between in messages. -/
inductive Marks where
  /-- Round brackets; a sequence of one item has a comma after it. -/
  | round
  /-- Square brackets. -/
  | square
deriving Repr, DecidableEq

/-- The text of a sequence, given the texts of its items. -/
def Marks.enclose (marks : Marks) (items : List Text) : Text :=
  let inner := Text.join ", ".toList items
  match marks with
  | .square => '[' :: inner ++ [']']
  | .round => '(' :: inner ++ if items.length = 1 then ",)".toList else [')']

mutual
/-- The value as it is written in messages. The marks are for sequences that are not inside an
object; those inside stand between square brackets. -/
def display (marks : Marks) : Json → Text
  | .null => "None".toList
  | .bool b => if b then "True".toList else "False".toList
  | .int n => (toString n).toList
  | .real x => Double.shortest x
  | .str t => Text.quoted t
  | .arr items => marks.enclose (displayItems marks items)
  | .obj members => '{' :: Text.join ", ".toList (displayMembers members) ++ ['}']

/-- The items of a sequence as they are written in messages. -/
def displayItems (marks : Marks) : List Json → List Text
  | [] => []
  | item :: items => display marks item :: displayItems marks items

/-- The members of an object as they are written in messages. -/
def displayMembers : List (Text × Json) → List Text
  | [] => []
  | (key, value) :: members =>
    (Text.quoted key ++ ": ".toList ++ display .square value) :: displayMembers members
end

/-- The value inside a message: a text as it is, anything else as it is written in messages. -/
def inMessage (marks : Marks) : Json → Text
  | .str t => t
  | value => display marks value

mutual
/-- The first whole number in the value that cannot be written. -/
def unwritable? : Json → Option Int
  | .int n => if IsWritable n then none else some n
  | .arr items => unwritableItem? items
  | .obj members => unwritableMember? members
  | .null | .bool _ | .real _ | .str _ => none

/-- The first whole number in the items that cannot be written. -/
def unwritableItem? : List Json → Option Int
  | [] => none
  | item :: items => match unwritable? item with
    | some n => some n
    | none => unwritableItem? items

/-- The first whole number in the members that cannot be written. -/
def unwritableMember? : List (Text × Json) → Option Int
  | [] => none
  | (_, value) :: members => match unwritable? value with
    | some n => some n
    | none => unwritableMember? members
end

/-- The value inside a message, if its whole numbers can be written. -/
def written (marks : Marks) (value : Json) : Except Int Text :=
  match unwritable? value with
  | some n => .error n
  | none => .ok (value.inMessage marks)

end Json

end TermPilot
