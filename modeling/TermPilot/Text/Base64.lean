import TermPilot.Text.Basic

/-!
# Base 64

Four letters of a 64-letter alphabet stand for three bytes. The last group may stand for one or
two bytes and is then filled up with `=`. Reading is strict: no other characters, no text after
the padding, no missing padding. Bits left over in the last group are not looked at, and `=` may
follow complete groups, where it pads nothing.
-/

namespace TermPilot.Text.Base64

/-- The value of a letter of the alphabet. -/
def digit? (c : Char) : Option Nat :=
  if 'A' ≤ c ∧ c ≤ 'Z' then some (c.toNat - 'A'.toNat)
  else if 'a' ≤ c ∧ c ≤ 'z' then some (c.toNat - 'a'.toNat + 26)
  else if '0' ≤ c ∧ c ≤ '9' then some (c.toNat - '0'.toNat + 52)
  else if c = '+' then some 62
  else if c = '/' then some 63
  else none

/-- The letter for a value below 64. -/
def letter (n : Nat) : Char :=
  if n < 26 then Char.ofNat ('A'.toNat + n)
  else if n < 52 then Char.ofNat ('a'.toNat + (n - 26))
  else if n < 62 then Char.ofNat ('0'.toNat + (n - 52))
  else if n = 62 then '+' else '/'

/-- The bytes of a padded text. `started` tells whether a complete group came before. -/
def decodeGroups (started : Bool) : Text → Option (List UInt8)
  | [] => some []
  | a :: rest =>
    if a = '=' then
      if started && rest.all (· = '=') then some [] else none
    else match rest with
      | b :: '=' :: ['='] => do
        let n := (← digit? a) * 64 + (← digit? b)
        return [(n / 16).toUInt8]
      | b :: c :: ['='] => do
        let n := ((← digit? a) * 64 + (← digit? b)) * 64 + (← digit? c)
        return [(n / 1024).toUInt8, (n / 4).toUInt8]
      | b :: c :: d :: later => do
        let n := (((← digit? a) * 64 + (← digit? b)) * 64 + (← digit? c)) * 64 + (← digit? d)
        let bytes ← decodeGroups true later
        return (n / 65536).toUInt8 :: (n / 256).toUInt8 :: n.toUInt8 :: bytes
      | _ => none

/-- The bytes that the text stands for, if it is well formed. -/
def decode? (t : Text) : Option (List UInt8) := decodeGroups false t

/-- The text for the bytes. -/
def encode : List UInt8 → Text
  | [] => []
  | [a] =>
    let n := a.toNat * 16
    [letter (n / 64), letter (n % 64), '=', '=']
  | [a, b] =>
    let n := (a.toNat * 256 + b.toNat) * 4
    [letter (n / 4096), letter (n / 64 % 64), letter (n % 64), '=']
  | a :: b :: c :: rest =>
    let n := (a.toNat * 256 + b.toNat) * 256 + c.toNat
    letter (n / 262144) :: letter (n / 4096 % 64) :: letter (n / 64 % 64) :: letter (n % 64) ::
      encode rest

end TermPilot.Text.Base64
