import TermPilot.Number.Decimal
import TermPilot.Text.Blank
import TermPilot.Text.Digit
import TermPilot.Text.Case

/-!
# Numbers written as text

Reading whole numbers and doubles the way settings, listings and exit markers write them: blanks
around the number, a sign, digits of any script, and single low lines between two digits. A whole
number of more than `maxDigits` digits is refused with its digit count. It is not written either.
-/

namespace TermPilot

/-- Why a text is no number. -/
inductive NumeralError where
  /-- It is not written like one. -/
  | malformed
  /-- It is a whole number of more than `Numeral.maxDigits` digits. -/
  | tooLong (digits : Nat)
deriving Repr, DecidableEq

namespace Numeral

/-- The greatest number of digits of a whole number. -/
def maxDigits : Nat := 4300

/-- The number with these decimal digits, the first being the highest. -/
def ofDigits (base : Nat) (digits : List Nat) : Nat := digits.foldl (fun n d => n * base + d) 0

/-- The number that a run of the digits `0` to `9` stands for. -/
def plain (t : Text) : Except NumeralError Nat :=
  if t.length > maxDigits then .error (.tooLong t.length)
  else .ok (ofDigits 10 (t.map fun c => c.toNat - '0'.toNat))

/-- Whether blank space around a number may hold `c`; the separators U+001C to U+001F may not
stand there. -/
def isNumberBlank (c : Char) : Bool := Text.isBlank c && !(0x1C ≤ c.toNat && c.toNat ≤ 0x1F)

/-- The text without the blank space around a number. -/
def strip (t : Text) : Text := Text.dropWhileEnd isNumberBlank (t.dropWhile isNumberBlank)

/-- The sign in front of a number, and the rest. -/
def cutSign : Text → Bool × Text
  | '-' :: rest => (true, rest)
  | '+' :: rest => (false, rest)
  | t => (false, t)

/-- The value of a digit below `base`, which is at most sixteen. -/
def digitOf (base : Nat) (c : Char) : Option Nat :=
  let value :=
    if 'a' ≤ c ∧ c ≤ 'f' then some (c.toNat - 'a'.toNat + 10)
    else if 'A' ≤ c ∧ c ≤ 'F' then some (c.toNat - 'A'.toNat + 10)
    else Text.digitValue? c
  value.filter (· < base)

/-- The values of a run of digits in which single low lines may stand between two digits;
`afterDigit` tells whether a digit has just been read. -/
def groupedDigits (base : Nat) (afterDigit : Bool) : Text → Option (List Nat)
  | [] => if afterDigit then some [] else none
  | c :: rest =>
    if c = '_' then if afterDigit then groupedDigits base false rest else none
    else do
      let d ← digitOf base c
      let ds ← groupedDigits base true rest
      return d :: ds

/-- The whole number that a text stands for in the given base. -/
def wholeIn (base : Nat) (t : Text) : Except NumeralError Int :=
  let (negative, rest) := cutSign (strip t)
  match groupedDigits base false rest with
  | none => .error .malformed
  | some ds =>
    if base = 10 ∧ ds.length > maxDigits then .error (.tooLong ds.length)
    else
      let n : Int := ofDigits base ds
      .ok (if negative then -n else n)

/-- The whole number that a text stands for. -/
def whole (t : Text) : Except NumeralError Int := wholeIn 10 t

/-- A run of digits that may be missing. -/
def optionalDigits (t : Text) : Option (List Nat) :=
  if t.isEmpty then some [] else groupedDigits 10 false t

/-- The exponent of a number, after its `e`. -/
def exponentOf (t : Text) : Option Int := do
  let (negative, rest) := cutSign t
  let n : Int := ofDigits 10 (← groupedDigits 10 false rest)
  return if negative then -n else n

/-- The double nearest to a number with the given digits before and after the point. -/
def assemble (negative : Bool) (before after : List Nat) (exponent : Int) : Float :=
  Double.ofDecimal negative (ofDigits 10 (before ++ after)) (exponent - after.length)

/-- The double that an unsigned text with digits stands for. -/
def unsignedReal (negative : Bool) (t : Text) : Option Float := do
  let (mantissa, exponent) ←
    match Text.cutAt 'e' (Text.replaceChar 'E' 'e' t) with
    | none => some (t, 0)
    | some (mantissa, exponent) => (exponentOf exponent).map fun e => (mantissa, e)
  match Text.cutAt '.' mantissa with
  | none => return assemble negative (← groupedDigits 10 false mantissa) [] exponent
  | some (before, after) =>
    let before ← optionalDigits before
    let after ← optionalDigits after
    if before.isEmpty && after.isEmpty then none
    else return assemble negative before after exponent

/-- The double that a text stands for: digits with an optional point and exponent, or one of the
words `inf`, `infinity` and `nan` in any mixture of ASCII cases. -/
def real? (t : Text) : Option Float :=
  let (negative, rest) := cutSign (strip t)
  let word := rest.map Char.toLower
  if word = "inf".toList ∨ word = "infinity".toList then
    some (if negative then -Double.infinity else Double.infinity)
  else if word = "nan".toList then some Double.nan
  else unsignedReal negative rest

end Numeral

/-! ## Writing -/

/-- A whole number has few enough digits to be written. -/
def IsWritable (number : Int) : Prop :=
  (Double.digits number.natAbs).length ≤ Numeral.maxDigits

instance : DecidablePred IsWritable := fun number =>
  inferInstanceAs (Decidable ((Double.digits number.natAbs).length ≤ Numeral.maxDigits))

namespace Numeral

/-- A whole number in decimal digits. One that cannot be written is given back. -/
def write (number : Int) : Except Int Text :=
  if IsWritable number then .ok (toString number).toList else .error number

/-- The message for a whole number that cannot be written. -/
def unwritableMessage : String :=
  s!"Exceeds the limit ({maxDigits} digits) for integer string conversion; " ++
    "use sys.set_int_max_str_digits() to increase the limit"

end Numeral

end TermPilot
