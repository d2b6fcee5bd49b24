import TermPilot.Json.Basic

/-!
# Equality of JSON values

Two values are the same if they are of one kind and equal. Inside of them numbers are compared by
what they stand for, whether they are written as whole numbers, reals or truth values, and the order
of the members of an object does not count.
-/

namespace TermPilot.Json

/-- The number that a value stands for, a truth value for zero or one. -/
def counted? : Json → Option Int
  | .bool b => some (if b then 1 else 0)
  | v => v.whole?

/-- Whether two values are numbers and stand for one number. -/
def equalNumbers : Json → Json → Bool
  | .real x, .real y => x == y
  | a, b => a.counted?.isSome && a.counted? == b.counted?

mutual
/-- Whether two values inside of other ones are equal. -/
def equal : Json → Json → Bool
  | .null, .null => true
  | .str a, .str b => a == b
  | .arr a, .arr b => equalItems a b
  | .obj a, .obj b => a.length == b.length && equalMembers b a
  | a, b => equalNumbers a b

/-- Whether two sequences have equal items. -/
def equalItems : List Json → List Json → Bool
  | [], [] => true
  | a :: as, b :: bs => equal a b && equalItems as bs
  | _, _ => false

/-- Whether all members are among those of another object, with equal values. -/
def equalMembers (others : List (Text × Json)) : List (Text × Json) → Bool
  | [] => true
  | (key, value) :: rest =>
    (match find? key others with
      | some other => equal value other
      | none => false) && equalMembers others rest
end

/-- Whether two values are of one kind and equal. -/
def same : Json → Json → Bool
  | .bool a, .bool b => a == b
  | .int a, .int b => a == b
  | .real x, .real y => x == y
  | .bool _, _ => false
  | .int _, _ => false
  | .real _, _ => false
  | a, b => equal a b

end TermPilot.Json
