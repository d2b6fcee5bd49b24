/-!
# Doubles as exact numbers

Durations and clock readings are doubles. Where a double is read from digits or written as digits,
that is done on its exact value: `decode` gives a finite double as a whole number times a power of
two, and `ofRatio` gives the double nearest to a ratio, a tie going to the even neighbour.
-/

namespace TermPilot.Double

/-- `num / den` rounded to a whole number, a half going to the even neighbour. -/
def roundDiv (num den : Nat) : Nat :=
  let q := num / den
  let r := num % den
  if 2 * r > den then q + 1
  else if 2 * r = den then q + q % 2
  else q

/-- What a double stands for. -/
inductive Value where
  /-- No number. -/
  | nan
  /-- An infinity of the given sign. -/
  | infinite (negative : Bool)
  /-- The number `significand * 2 ^ exponent`, with its sign. -/
  | finite (negative : Bool) (significand : Nat) (exponent : Int)
deriving Repr, DecidableEq

/-- The exact value of a double. -/
def decode (x : Float) : Value :=
  let bits : Nat := x.toBits.toNat
  let negative := decide (bits / Nat.pow 2 63 = 1)
  let biased : Nat := bits / Nat.pow 2 52 % 2048
  let fraction : Nat := bits % Nat.pow 2 52
  if biased = 2047 then if fraction = 0 then .infinite negative else .nan
  else if biased = 0 then .finite negative fraction (-1074)
  else .finite negative (Nat.pow 2 52 + fraction) (biased - 1075)

/-- A positive infinity. -/
def infinity : Float := Float.ofBits 0x7FF0000000000000

/-- No number. -/
def nan : Float := Float.ofBits 0x7FF8000000000000

/-- `num / (den * 2 ^ exponent)` as a numerator and a denominator. -/
def scaleDown (num den : Nat) (exponent : Int) : Nat × Nat :=
  (num * Nat.pow 2 (-exponent).toNat, den * Nat.pow 2 exponent.toNat)

/-- The bits of the double nearest to `num / den`, or `none` if that is beyond all doubles. -/
def bitsOfRatio (num den : Nat) : Option Nat :=
  if num = 0 || den = 0 then some 0
  else
    let guess : Int := (num.log2 : Int) - den.log2 - 53
    let (n, d) := scaleDown num den guess
    let exponent := max (if n / d ≥ Nat.pow 2 53 then guess + 1 else guess) (-1074)
    let (n, d) := scaleDown num den exponent
    let bits := (exponent + 1074).toNat * Nat.pow 2 52 + roundDiv n d
    if bits < 0x7FF0000000000000 then some bits else none

/-- The double nearest to `num / den`, or `none` if that is beyond all doubles. -/
def ofRatio (negative : Bool) (num den : Nat) : Option Float :=
  (bitsOfRatio num den).map fun bits =>
    Float.ofBits ((if negative then Nat.pow 2 63 else 0) + bits).toUInt64

/-- The double nearest to a whole number, or `none` if that is beyond all doubles. -/
def ofInt (n : Int) : Option Float := ofRatio (decide (n < 0)) n.natAbs 1

/-- The double nearest to `digits * 10 ^ exponent`; beyond all doubles it is an infinity. -/
def ofDecimal (negative : Bool) (digits : Nat) (exponent : Int) : Float :=
  let size : Int := (digits.log2 : Int) + 1
  let nearest : Option Float :=
    if digits = 0 || exponent < 0 && size + 3 * exponent < -1200 then ofRatio negative 0 1
    else if exponent > 400 then none
    else ofRatio negative (digits * Nat.pow 10 exponent.toNat) (Nat.pow 10 (-exponent).toNat)
  match nearest with
  | some x => x
  | none => if negative then -infinity else infinity

/-- The whole number that a finite double has before its point. -/
def truncate? (x : Float) : Option Int :=
  match decode x with
  | .finite negative significand exponent =>
    let n : Int := (significand * Nat.pow 2 exponent.toNat / Nat.pow 2 (-exponent).toNat : Nat)
    some (if negative then -n else n)
  | _ => none

end TermPilot.Double
