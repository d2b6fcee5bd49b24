import TermPilot.Json.Basic
import TermPilot.Number.Numeral
import TermPilot.Text.Utf8

/-!
# Reading JSON

The words `NaN`, `Infinity` and `-Infinity` are read as numbers, the last of several members with
one name wins, and whole numbers are limited in length. How deeply a document may be nested depends
on the stack of the program that reads it, so this limit is a parameter. A document given as bytes
may be encoded in UTF-8, UTF-16 or UTF-32, with or without a byte order mark.
-/

namespace TermPilot

/-- Why a document could not be read. -/
inductive JsonError where
  /-- The text is no JSON document. -/
  | malformed
  /-- A whole number has too many digits. -/
  | numeralTooLong (digits : Nat)
  /-- The bytes are no text. -/
  | undecodable
  /-- Sequences and objects are nested too deeply. -/
  | tooDeep
deriving Repr, DecidableEq

namespace Json

/-- The text without the white space that may stand between two symbols. -/
def skipSpace (t : Text) : Text :=
  t.dropWhile fun c => c = ' ' || c = '\t' || c = '\n' || c = '\r'

/-- The number that four hexadecimal digits stand for. -/
def hexUnit (a b c d : Char) : Option Nat := do
  let digit (c : Char) : Option Nat := if c.toNat < 0x80 then Numeral.digitOf 16 c else none
  return Numeral.ofDigits 16 [← digit a, ← digit b, ← digit c, ← digit d]

/-- The character for an escaped code unit that belongs to no pair. -/
def loneUnit (n : Nat) : Char :=
  if 0xD800 ≤ n ∧ n < 0xE000 then Char.ofNat 0xFFFD else Char.ofNat n

/-- The character that a simple escape stands for. -/
def simpleEscape? : Char → Option Char
  | '"' => some '"'
  | '\\' => some '\\'
  | '/' => some '/'
  | 'b' => some (Char.ofNat 8)
  | 'f' => some (Char.ofNat 12)
  | 'n' => some '\n'
  | 'r' => some '\r'
  | 't' => some '\t'
  | _ => none

/-- The low half that follows an escaped high half of a pair, and the rest. -/
def lowHalf? : Text → Option (Nat × Text)
  | '\\' :: 'u' :: a :: b :: c :: d :: rest => do
    let n ← hexUnit a b c d
    if 0xDC00 ≤ n ∧ n < 0xE000 then some (n, rest) else none
  | _ => none

/-- The text up to the closing quote, and what follows the quote. -/
def readString : Nat → Text → Except JsonError (Text × Text)
  | 0, _ => .error .malformed
  | fuel + 1, t => match t with
    | [] => .error .malformed
    | '"' :: rest => .ok ([], rest)
    | '\\' :: 'u' :: a :: b :: c :: d :: rest =>
      match hexUnit a b c d with
      | none => .error .malformed
      | some n =>
        match if 0xD800 ≤ n ∧ n < 0xDC00 then lowHalf? rest else none with
        | some (low, rest) => do
          let (t, rest) ← readString fuel rest
          return (Char.ofNat (0x10000 + (n - 0xD800) * 0x400 + (low - 0xDC00)) :: t, rest)
        | none => do
          let (t, rest) ← readString fuel rest
          return (loneUnit n :: t, rest)
    | '\\' :: e :: rest =>
      match simpleEscape? e with
      | none => .error .malformed
      | some c => do
        let (t, rest) ← readString fuel rest
        return (c :: t, rest)
    | c :: rest =>
      if c.toNat < 0x20 ∨ c = '\\' then .error .malformed
      else do
        let (t, rest) ← readString fuel rest
        return (c :: t, rest)

/-- A run of digits at the start of the text, and the rest. -/
def cutDigits (t : Text) : Text × Text := (t.takeWhile Char.isDigit, t.dropWhile Char.isDigit)

/-- The digits of a whole number at the start of the text, and the rest. Nothing follows a zero that
they begin with. -/
def cutWhole : Text → Text × Text
  | '0' :: rest => (['0'], rest)
  | t => cutDigits t

/-- The fraction digits after a point, or nothing when no digit follows a point. -/
def cutFraction (t : Text) : Option (Text × Text) :=
  match t with
  | '.' :: rest => match cutDigits rest with
    | ([], _) => none
    | cut => some cut
  | _ => none

/-- The exponent, or nothing when no digit follows its letter and sign. -/
def cutExponent (t : Text) : Option (Int × Text) :=
  match t with
  | e :: rest =>
    if e = 'e' ∨ e = 'E' then
      let (negative, rest) := Numeral.cutSign rest
      match cutDigits rest with
      | ([], _) => none
      | (ds, rest) =>
        let n : Int := Numeral.ofDigits 10 (ds.map fun c => c.toNat - '0'.toNat)
        some (if negative then -n else n, rest)
    else none
  | [] => none

/-- The number at the start of a text that has no sign any more. -/
def readNumber (negative : Bool) (t : Text) : Except JsonError (Json × Text) :=
  let (before, rest) := cutWhole t
  if before.isEmpty then .error .malformed
  else
    let value (c : Char) : Nat := c.toNat - '0'.toNat
    let (after, rest') := (cutFraction rest).getD ([], rest)
    match cutExponent rest' with
    | some (exponent, rest) =>
      .ok (.real (Numeral.assemble negative (before.map value) (after.map value) exponent), rest)
    | none =>
      if !after.isEmpty then
        .ok (.real (Numeral.assemble negative (before.map value) (after.map value) 0), rest')
      else match Numeral.plain before with
        | .ok n => .ok (.int (if negative then -(n : Int) else n), rest)
        | .error (.tooLong digits) => .error (.numeralTooLong digits)
        | .error .malformed => .error .malformed

/-- The words that stand for a value. -/
def words : List (Text × Json) :=
  [("null".toList, .null), ("true".toList, .bool true), ("false".toList, .bool false),
   ("NaN".toList, .real Double.nan), ("Infinity".toList, .real Double.infinity),
   ("-Infinity".toList, .real (-Double.infinity))]

/-- The word at the start of the text and the rest, if there is one. -/
def readWord (t : Text) : Option (Json × Text) :=
  words.findSome? fun (word, value) => (Text.dropStart? word t).map fun rest => (value, rest)

/-- The number of sequences and objects inside each other that the stack of a program usually leaves
room for. -/
def usualDepth : Nat := 980

mutual
/-- The value at the start of the text, and the rest; `depth` is the number of sequences and objects
around it, and `limit` is the greatest such number. -/
def readValue (limit depth : Nat) : Nat → Text → Except JsonError (Json × Text)
  | 0, _ => .error .malformed
  | fuel + 1, t => match t with
    | '"' :: rest => do
      let (s, rest) ← readString (rest.length + 1) rest
      return (.str s, rest)
    | '[' :: rest =>
      if depth ≥ limit then .error .tooDeep
      else match skipSpace rest with
        | ']' :: rest => .ok (.arr [], rest)
        | rest => do
          let (items, rest) ← readItems limit (depth + 1) fuel rest
          return (.arr items, rest)
    | '{' :: rest =>
      if depth ≥ limit then .error .tooDeep
      else match skipSpace rest with
        | '}' :: rest => .ok (.obj [], rest)
        | rest => do
          let (members, rest) ← readMembers limit (depth + 1) fuel [] rest
          return (.obj members, rest)
    | t => match readWord t with
      | some found => .ok found
      | none => match t with
        | '-' :: rest => readNumber true rest
        | t => readNumber false t

/-- The items of a sequence up to its closing bracket, and the rest. -/
def readItems (limit depth : Nat) : Nat → Text → Except JsonError (List Json × Text)
  | 0, _ => .error .malformed
  | fuel + 1, t => do
    let (item, rest) ← readValue limit depth fuel t
    match skipSpace rest with
    | ']' :: rest => return ([item], rest)
    | ',' :: rest =>
      let (items, rest) ← readItems limit depth fuel (skipSpace rest)
      return (item :: items, rest)
    | _ => throw .malformed

/-- The members of an object up to its closing brace, added to those already read, and the rest. -/
def readMembers (limit depth : Nat) :
    Nat → List (Text × Json) → Text → Except JsonError (List (Text × Json) × Text)
  | 0, _, _ => .error .malformed
  | fuel + 1, members, t => match t with
    | '"' :: rest => do
      let (key, rest) ← readString (rest.length + 1) rest
      match skipSpace rest with
      | ':' :: rest =>
        let (value, rest) ← readValue limit depth fuel (skipSpace rest)
        let members := insert key value members
        match skipSpace rest with
        | '}' :: rest => return (members, rest)
        | ',' :: rest => readMembers limit depth fuel members (skipSpace rest)
        | _ => throw .malformed
      | _ => throw .malformed
    | _ => .error .malformed
end

/-- The document that the whole text is. -/
def read (t : Text) (limit : Nat := usualDepth) : Except JsonError Json := do
  let (value, rest) ← readValue limit 0 (2 * t.length + 2) (skipSpace t)
  if (skipSpace rest).isEmpty then return value else throw .malformed

/-! ## Documents as bytes -/

/-- The document that a file of UTF-8 bytes holds. -/
def readUtf8 (bytes : List UInt8) (limit : Nat := usualDepth) : Except JsonError Json :=
  match Text.Utf8.decode? bytes with
  | none => .error .undecodable
  | some t => read t limit

/-- The bytes in groups of `size` as numbers, the first byte of a group being the highest if
`bigEndian`; `none` if bytes are left over. -/
def units (bigEndian : Bool) (size : Nat) : Nat → List UInt8 → Option (List Nat)
  | _, [] => some []
  | 0, _ => none
  | fuel + 1, bytes =>
    let group := (bytes.take size).map UInt8.toNat
    if group.length < size then none
    else
      let n := Numeral.ofDigits 256 (if bigEndian then group else group.reverse)
      (units bigEndian size fuel (bytes.drop size)).map (n :: ·)

/-- The text of UTF-16 code units. -/
def ofUnits16 : List Nat → Text
  | [] => []
  | high :: low :: rest =>
    if 0xD800 ≤ high ∧ high < 0xDC00 ∧ 0xDC00 ≤ low ∧ low < 0xE000 then
      Char.ofNat (0x10000 + (high - 0xD800) * 0x400 + (low - 0xDC00)) :: ofUnits16 rest
    else loneUnit high :: ofUnits16 (low :: rest)
  | [unit] => [loneUnit unit]

/-- How the bytes of a document are encoded. -/
inductive Encoding where
  /-- One to four bytes a character. -/
  | utf8
  /-- Two-byte units. -/
  | utf16 (bigEndian : Bool)
  /-- Four-byte units. -/
  | utf32 (bigEndian : Bool)
deriving Repr, DecidableEq

/-- The encoding of a document and its bytes after a byte order mark. A document without a mark
starts with an ASCII character, so the zero bytes among the first four tell its encoding. -/
def detect (bytes : List UInt8) : Encoding × List UInt8 :=
  match bytes with
  | 0xFF :: 0xFE :: 0 :: 0 :: rest => (.utf32 false, rest)
  | 0 :: 0 :: 0xFE :: 0xFF :: rest => (.utf32 true, rest)
  | 0xFF :: 0xFE :: rest => (.utf16 false, rest)
  | 0xFE :: 0xFF :: rest => (.utf16 true, rest)
  | 0xEF :: 0xBB :: 0xBF :: rest => (.utf8, rest)
  | a :: b :: c :: d :: _ =>
    if a = 0 then (if b = 0 then .utf32 true else .utf16 true, bytes)
    else if b = 0 then (if c = 0 ∧ d = 0 then .utf32 false else .utf16 false, bytes)
    else (.utf8, bytes)
  | [a, b] =>
    if a = 0 then (.utf16 true, bytes) else if b = 0 then (.utf16 false, bytes) else (.utf8, bytes)
  | _ => (.utf8, bytes)

/-- The bytes with the mark for what is no character instead of each half of a surrogate pair that
is encoded as if it were a character. -/
def withoutHalves : List UInt8 → List UInt8
  | 0xED :: b :: c :: rest =>
    if 0xA0 ≤ b ∧ b < 0xC0 ∧ 0x80 ≤ c ∧ c < 0xC0 then
      0xEF :: 0xBF :: 0xBD :: withoutHalves rest
    else 0xED :: withoutHalves (b :: c :: rest)
  | b :: rest => b :: withoutHalves rest
  | [] => []

/-- The document that bytes in any of the encodings hold. -/
def readBytes (bytes : List UInt8) (limit : Nat := usualDepth) : Except JsonError Json :=
  match detect bytes with
  | (.utf8, rest) => readUtf8 (withoutHalves rest) limit
  | (.utf16 bigEndian, rest) => match units bigEndian 2 rest.length rest with
    | none => .error .undecodable
    | some units => read (ofUnits16 units) limit
  | (.utf32 bigEndian, rest) => match units bigEndian 4 rest.length rest with
    | none => .error .undecodable
    | some units =>
      if units.all (· < 0x110000) then read (units.map loneUnit) limit else .error .undecodable

end Json

end TermPilot
