import TermPilot.Number.Numeral
import TermPilot.Terminal.Sequence

/-!
# Commands

What a program writes to its terminal is a stream of characters and control sequences. It is read a
character at a time, so that a sequence may arrive in pieces.
-/

namespace TermPilot.Emulator

/-- Something that a program has the terminal do. -/
inductive Command where
  /-- Show a character. -/
  | draw (c : Char)
  /-- Go to the first column. -/
  | carriageReturn
  /-- Go to the next row. -/
  | lineFeed
  /-- Go one column back. -/
  | backspace
  /-- Go to the next tab stop. -/
  | tab
  /-- What a control sequence says, by its final character. -/
  | control (marked : Bool) (parameters : List Nat) (final : Char)
deriving Repr, DecidableEq

/-- Why a control sequence cannot be obeyed. -/
inductive Refusal where
  /-- It has more parameters than sequences of its kind take, or a mark that they do not take. -/
  | form
  /-- It names a part of the screen that there is not. -/
  | part
  /-- A parameter has too many digits. -/
  | numeralTooLong (digits : Nat)
deriving Repr, DecidableEq

/-- Where the reading of a stream stands. -/
inductive Reading where
  /-- Between two commands. -/
  | ground
  /-- After the escape character. -/
  | escape
  /-- After an escape that takes one more character. -/
  | skip
  /-- In a control sequence: whether it is marked as private, its parameters so far, the latest
  first, and the digits of the next one. -/
  | control (marked : Bool) (parameters : List Nat) (digits : Text)
  /-- At the start of a string for the operating system. -/
  | string
  /-- In such a string. -/
  | stringText
  /-- After an escape character in such a string. -/
  | stringEscape
deriving Repr, DecidableEq

/-- The greatest parameter; greater ones count as it. -/
def maxParameter : Nat := 9999

/-- The value of the digits of a parameter; without digits it is zero. -/
def parameterOf (digits : Text) : Except Refusal Nat :=
  match Numeral.plain digits with
  | .ok n => .ok (min n maxParameter)
  | .error _ => .error (.numeralTooLong digits.length)

/-- The command that a control character stands for wherever it occurs. -/
def simple? (c : Char) : Option Command :=
  if c = '\r' then some .carriageReturn
  else if c = '\n' || c = '\x0b' || c = '\x0c' then some .lineFeed
  else if c = '\x08' then some .backspace
  else if c = '\t' then some .tab
  else none

/-- Whether a character does nothing between commands. -/
def isIdle (c : Char) : Bool := c.toNat < 0x20 || c.toNat = 0x7F

/-- Reads a character between commands. -/
def readGround (c : Char) : Reading × Option Command :=
  match simple? c with
  | some command => (.ground, some command)
  | none =>
    if c = Terminal.esc then (.escape, none)
    else if isIdle c then (.ground, none)
    else (.ground, some (.draw c))

/-- Reads a character of a control sequence. -/
def readControl (marked : Bool) (parameters : List Nat) (digits : Text) (c : Char) :
    Except Refusal (Reading × Option Command) :=
  let here : Reading := .control marked parameters digits
  match simple? c with
  | some command => .ok (here, some command)
  | none =>
    if c = '?' then .ok (.control true parameters digits, none)
    else if c.isDigit then .ok (.control marked parameters (digits ++ [c]), none)
    else if c = ' ' || c = '>' || c = '\x07' then .ok (here, none)
    else if c = '\x18' || c = '\x1a' then .ok (.ground, none)
    else if c = '$' then .ok (.skip, none)
    else do
      let parameters := (← parameterOf digits) :: parameters
      if c = ';' then return (.control marked parameters [], none)
      else return (.ground, some (.control marked parameters.reverse c))

/-- Reads a character. -/
def Reading.read (c : Char) : Reading → Except Refusal (Reading × Option Command)
  | .ground => .ok (readGround c)
  | .escape =>
    if c = '[' then .ok (.control false [] [], none)
    else if c = ']' then .ok (.string, none)
    else if "#%()".toList.contains c then .ok (.skip, none)
    else .ok (.ground, none)
  | .skip => .ok (.ground, none)
  | .control marked parameters digits => readControl marked parameters digits c
  | .string => .ok (if c = 'R' || c = 'P' then .ground else .stringText, none)
  | .stringText =>
    if c = '\x07' || c = Char.ofNat 0x9C then .ok (.ground, none)
    else if c = Terminal.esc then .ok (.stringEscape, none)
    else .ok (.stringText, none)
  | .stringEscape => .ok (if c = '\\' then .ground else .stringText, none)

end TermPilot.Emulator
