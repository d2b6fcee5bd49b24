import TermPilot.Terminal.Sequence

/-!
# Escape sequences in a screen dump

A dump is cut into visible characters and escape sequences. Four kinds of sequences are known:
control sequences, operating system commands, the other string commands, and short sequences. A
control sequence without its final character counts as the short sequence of its first two
characters, and an escape character that starts nothing is visible.
-/

namespace TermPilot.Screen

open Terminal

/-- A piece of a dump. -/
inductive Piece where
  /-- A character that is shown. -/
  | char (c : Char)
  /-- A whole escape sequence. -/
  | sequence (raw : Text)
deriving Repr, DecidableEq

/-- Whether the code point of `c` lies between two code points. -/
def between (low high : Nat) (c : Char) : Bool := low ≤ c.toNat && c.toNat ≤ high

/-- A parameter character of a control sequence. -/
def isParameter (c : Char) : Bool := between 0x30 0x3F c

/-- A character between the parameters and the final character. -/
def isIntermediate (c : Char) : Bool := between 0x20 0x2F c

/-- A final character of a control sequence. -/
def isFinal (c : Char) : Bool := between 0x40 0x7E c

/-- A final character of a short sequence. -/
def isShortFinal (c : Char) : Bool := between 0x30 0x7E c

/-- The length of a run of characters and the final character after it. -/
def finishedLength? (final : Char → Bool) (length : Nat) (rest : Text) : Option Nat :=
  match rest with
  | c :: _ => if final c then some (length + 1) else none
  | [] => none

/-- The length of a control sequence after its introducer. -/
def controlLength? (t : Text) : Option Nat :=
  let parameters := t.takeWhile isParameter
  let rest := t.dropWhile isParameter
  let intermediates := rest.takeWhile isIntermediate
  finishedLength? isFinal (parameters.length + intermediates.length) (rest.dropWhile isIntermediate)

/-- The length of a short sequence after the escape character. -/
def shortLength? (t : Text) : Option Nat :=
  finishedLength? isShortFinal (t.takeWhile isIntermediate).length (t.dropWhile isIntermediate)

/-- The length of the string terminator at the start of a text, nothing if there is none. -/
def terminatorLength : Text → Nat
  | c :: '\\' :: _ => if c = esc then 2 else 0
  | _ => 0

/-- The length of an operating system command after its introducer: up to a bell, a string
terminator, any other escape character or the end. -/
def commandLength (t : Text) : Nat :=
  let inBody : Char → Bool := fun c => c ≠ '\x07' && c ≠ esc
  let rest := t.dropWhile inBody
  (t.takeWhile inBody).length + match rest with
    | '\x07' :: _ => 1
    | _ => terminatorLength rest

/-- The length of another string command after its introducer. -/
def stringLength (t : Text) : Nat :=
  let inBody : Char → Bool := fun c => c ≠ esc
  (t.takeWhile inBody).length + terminatorLength (t.dropWhile inBody)

/-- The length of the escape sequence after its escape character, if one starts there. -/
def sequenceLength? (t : Text) : Option Nat :=
  match t with
  | '[' :: rest => match controlLength? rest with
    | some n => some (n + 1)
    | none => some 1
  | ']' :: rest => some (commandLength rest + 1)
  | c :: rest =>
    if c = 'P' ∨ c = 'X' ∨ c = '^' ∨ c = '_' then some (stringLength rest + 1)
    else shortLength? t
  | [] => none

/-- The pieces of a dump after its first `skip` characters, which belong to an earlier piece. -/
def piecesAfter (skip : Nat) : Text → List Piece
  | [] => []
  | c :: rest =>
    match skip with
    | skip + 1 => piecesAfter skip rest
    | 0 =>
      if c = esc then
        match sequenceLength? rest with
        | some n => .sequence (c :: rest.take n) :: piecesAfter n rest
        | none => .char c :: piecesAfter 0 rest
      else .char c :: piecesAfter 0 rest

/-- The pieces of a dump, in order. -/
def pieces (t : Text) : List Piece := piecesAfter 0 t

/-- What a piece shows. -/
def Piece.visible : Piece → Text
  | .char c => [c]
  | .sequence _ => []

/-- The dump without its escape sequences. -/
def strip (t : Text) : Text := (pieces t).flatMap Piece.visible

/-- The dump together with its visible text. -/
def withVisible (raw : Text) : Text × Text := (raw, strip raw)

end TermPilot.Screen
