import TermPilot.Text.Basic

/-!
# UTF-8

Decoding is a machine that reads one byte at a time, so that the same machine serves a whole file
and output that arrives in pieces. It reports every maximal ill-formed piece once: a piece ends
just before the first byte that cannot continue it.
-/

namespace TermPilot.Text.Utf8

/-- A character that has been started and needs `more` further bytes. -/
structure Started where
  /-- How many bytes are still needed, at least one. -/
  more : Nat
  /-- The least value of the next byte. -/
  low : Nat
  /-- The greatest value of the next byte. -/
  high : Nat
  /-- The value of the bits read so far. -/
  bits : Nat
deriving Repr, DecidableEq

/-- The decoder between two bytes: at a character boundary, or inside a character. -/
abbrev State := Option Started

/-- What the decoder reports: a character, or an ill-formed piece. -/
inductive Report where
  /-- A decoded character. -/
  | char (c : Char)
  /-- A piece of input that is the beginning of no character. -/
  | illFormed
deriving Repr, DecidableEq

/-- Reads a byte at a character boundary. -/
def start (byte : UInt8) : List Report × State :=
  let b := byte.toNat
  if b < 0x80 then ([.char (Char.ofNat b)], none)
  else if b < 0xC2 then ([.illFormed], none)
  else if b < 0xE0 then ([], some ⟨1, 0x80, 0xBF, b - 0xC0⟩)
  else if b < 0xF0 then
    let low := if b = 0xE0 then 0xA0 else 0x80
    let high := if b = 0xED then 0x9F else 0xBF
    ([], some ⟨2, low, high, b - 0xE0⟩)
  else if b < 0xF5 then
    let low := if b = 0xF0 then 0x90 else 0x80
    let high := if b = 0xF4 then 0x8F else 0xBF
    ([], some ⟨3, low, high, b - 0xF0⟩)
  else ([.illFormed], none)

/-- Reads a byte. A byte that cannot continue the started character ends it as ill-formed and is
read again at the boundary. -/
def step (state : State) (byte : UInt8) : List Report × State :=
  match state with
  | none => start byte
  | some s =>
    let b := byte.toNat
    if s.low ≤ b && b ≤ s.high then
      let bits := s.bits * 64 + (b - 0x80)
      if s.more ≤ 1 then ([.char (Char.ofNat bits)], none)
      else ([], some ⟨s.more - 1, 0x80, 0xBF, bits⟩)
    else
      let (reports, next) := start byte
      (.illFormed :: reports, next)

/-- Reads bytes one after the other; gives the reports and the state after the last byte. -/
def run (state : State) : List UInt8 → List Report × State
  | [] => ([], state)
  | byte :: bytes =>
    let (reports, next) := step state byte
    let (later, last) := run next bytes
    (reports ++ later, last)

/-- The reports on a whole input: a character left unfinished at the end is ill-formed. -/
def reports (bytes : List UInt8) : List Report :=
  match run none bytes with
  | (reports, none) => reports
  | (reports, some _) => reports ++ [.illFormed]

/-- The character for a report, with U+FFFD for an ill-formed piece. -/
def Report.charOrMark : Report → Char
  | .char c => c
  | .illFormed => Char.ofNat 0xFFFD

/-- The text with U+FFFD for every ill-formed piece. -/
def decodeMarked (bytes : List UInt8) : Text := (reports bytes).map Report.charOrMark

/-- The text, if every byte belongs to a character. -/
def decode? (bytes : List UInt8) : Option Text :=
  (reports bytes).mapM fun
    | .char c => some c
    | .illFormed => none

/-- The bytes of the text. -/
def encode (t : Text) : List UInt8 := t.flatMap String.utf8EncodeChar

end TermPilot.Text.Utf8
