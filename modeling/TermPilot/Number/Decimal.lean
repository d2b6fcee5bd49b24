import TermPilot.Number.Double
import TermPilot.Text.Basic

/-!
# Doubles as decimal text

Two written forms: with a fixed number of places, for durations in messages, and with the fewest
digits that read back as the same double.
-/

namespace TermPilot.Double

/-- The decimal digits of a natural number. -/
def digits (n : Nat) : Text := Nat.toDigits 10 n

/-- A number given in units of `10 ^ -places`, with a point in front of the last `places` digits. -/
def placed (places n : Nat) : Text :=
  let all := digits n
  let padded := List.replicate (places + 1 - all.length) '0' ++ all
  let cut := padded.length - places
  padded.take cut ++ '.' :: padded.drop cut

/-- The double with `places` digits after the point, rounded from its exact value; a half goes to
the even neighbour. -/
def fixed (places : Nat) (x : Float) : String :=
  match decode x with
  | .nan => "nan"
  | .infinite negative => if negative then "-inf" else "inf"
  | .finite negative significand exponent =>
    let num := significand * Nat.pow 2 exponent.toNat * Nat.pow 10 places
    let body := placed places (roundDiv num (Nat.pow 2 (-exponent).toNat))
    Text.string (if negative then '-' :: body else body)

/-- The numbers that round to a double: those between two ends, which belong to the interval if
`closed`. All three numbers are in units of `1 / den`. -/
structure Interval where
  /-- The lower end. -/
  low : Nat
  /-- The double itself. -/
  value : Nat
  /-- The upper end. -/
  high : Nat
  /-- The unit's denominator. -/
  den : Nat
  /-- Whether the ends round to the double as well. -/
  closed : Bool

/-- The numbers that round to `significand * 2 ^ exponent`. -/
def Interval.of (significand : Nat) (exponent : Int) : Interval :=
  let scale := Nat.pow 2 (exponent - 2).toNat
  let below := if significand = Nat.pow 2 52 ∧ exponent > -1074 then 1 else 2
  { low := (4 * significand - below) * scale
    value := 4 * significand * scale
    high := (4 * significand + 2) * scale
    den := Nat.pow 2 (2 - exponent).toNat
    closed := significand % 2 = 0 }

/-- Whether `n * 10 ^ e` lies in the interval. -/
def Interval.contains (i : Interval) (n : Nat) (e : Int) : Bool :=
  let x := n * Nat.pow 10 e.toNat * i.den
  let unit := Nat.pow 10 (-e).toNat
  if i.closed then i.low * unit ≤ x && x ≤ i.high * unit
  else i.low * unit < x && x < i.high * unit

/-- The number `k` with `10 ^ (k - 1) ≤ num / den < 10 ^ k`, for a positive ratio. -/
def decimalMagnitude (num den : Nat) : Int :=
  if num ≥ den then (digits (num / den)).length
  else
    let zeros := (digits (den / num)).length - 1
    if num * Nat.pow 10 zeros = den then 1 - (zeros : Int) else -(zeros : Int)

/-- The fewest decimal digits `n * 10 ^ e` that round to the double; `count` is the number of digits
tried first and `fuel` how many more may be tried. -/
def fewestDigits (i : Interval) (magnitude : Int) (count fuel : Nat) : Nat × Int :=
  let e := magnitude - count
  let num := i.value * Nat.pow 10 (-e).toNat
  let den := i.den * Nat.pow 10 e.toNat
  let below := num / den
  let belowFits := i.contains below e && below != 0
  let aboveFits := i.contains (below + 1) e
  if belowFits && aboveFits then (roundDiv num den, e)
  else if belowFits then (below, e)
  else if aboveFits then (below + 1, e)
  else match fuel with
    | 0 => (roundDiv num den, e)
    | fuel + 1 => fewestDigits i magnitude (count + 1) fuel

/-- Digits `ds` with the point after the first `point` of them, positional from `10 ^ -4` up to
below `10 ^ 16` and with an exponent of at least two digits otherwise. -/
def pointed (ds : Text) (point : Int) : Text :=
  if -4 < point ∧ point ≤ 16 then
    if point ≤ 0 then '0' :: '.' :: (List.replicate (-point).toNat '0' ++ ds)
    else
      let whole := ds ++ List.replicate (point.toNat - ds.length) '0'
      let fraction := ds.drop point.toNat
      whole.take point.toNat ++ '.' :: (if fraction.isEmpty then ['0'] else fraction)
  else
    let e := point - 1
    let body := ds.take 1 ++ (if ds.length ≤ 1 then [] else '.' :: ds.drop 1)
    let size := digits e.natAbs
    body ++ 'e' :: (if e < 0 then '-' else '+') :: (List.replicate (2 - size.length) '0' ++ size)

/-- The double with the fewest digits that read back as the same double. -/
def shortest (x : Float) : Text :=
  match decode x with
  | .nan => "nan".toList
  | .infinite negative => if negative then "-inf".toList else "inf".toList
  | .finite negative significand exponent =>
    let body :=
      if significand = 0 then "0.0".toList
      else
        let i := Interval.of significand exponent
        let (n, e) := fewestDigits i (decimalMagnitude i.value i.den) 1 16
        let all := digits n
        let ds := Text.dropWhileEnd (· = '0') all
        pointed ds (all.length + e)
    if negative then '-' :: body else body

end TermPilot.Double
