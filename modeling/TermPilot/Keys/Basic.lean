import TermPilot.Text.Basic

/-!
# Keys

A key press is a key together with the modifier keys held down. How it is encoded depends on the
modes that the program in the terminal has asked for.
-/

namespace TermPilot

/-- A key with a name. -/
inductive NamedKey where
  | escape
  | enter
  | tab
  | backspace
  | delete
  | insert
  | home
  | endKey
  | pageUp
  | pageDown
  | up
  | down
  | left
  | right
deriving Repr, DecidableEq

/-- A key. -/
inductive Key where
  /-- A key with a name. -/
  | named (key : NamedKey)
  /-- The function key of a number. -/
  | function (number : Int)
  /-- The key of a character; only texts of one character have an encoding. -/
  | char (text : Text)
deriving Repr, DecidableEq

/-- The modifier keys held down. -/
structure Modifiers where
  /-- Shift. -/
  shift : Bool := false
  /-- Alt. -/
  alt : Bool := false
  /-- Control. -/
  ctrl : Bool := false
deriving Repr, DecidableEq

namespace Modifiers

/-- No modifier key. -/
def none : Modifiers := {}

/-- The modifiers as bits: one for Shift, two for Alt and four for Control. -/
def bits (m : Modifiers) : Nat :=
  (if m.shift then 1 else 0) + (if m.alt then 2 else 0) + (if m.ctrl then 4 else 0)

/-- The modifier parameter of an escape sequence. -/
def parameter (m : Modifiers) : Nat := 1 + m.bits

/-- The names of the modifiers, Shift first and Control last. -/
def names (m : Modifiers) : List String :=
  (if m.shift then ["shift"] else []) ++ (if m.alt then ["alt"] else []) ++
    (if m.ctrl then ["ctrl"] else [])

/-- The modifiers as they are written in messages. -/
def display (m : Modifiers) : String :=
  let held := (if m.shift then ["SHIFT"] else []) ++ (if m.alt then ["ALT"] else []) ++
    (if m.ctrl then ["CTRL"] else [])
  let words := if held.isEmpty then "NONE" else "|".intercalate held
  s!"<Modifiers.{words}: {m.bits}>"

end Modifiers

/-- A key press. -/
structure KeyPress where
  /-- The key. -/
  key : Key
  /-- The modifier keys held down. -/
  mods : Modifiers := {}
deriving Repr, DecidableEq

/-- The family of escape sequences that keys are encoded in. -/
inductive KeyProtocol where
  /-- The sequences every terminal sends. -/
  | legacy
  /-- The sequences of the kitty keyboard protocol, for what the legacy ones cannot express. -/
  | kitty
deriving Repr, DecidableEq

/-- What the program in the terminal has asked of the keyboard. -/
structure KeyModes where
  /-- The family of escape sequences. -/
  encoding : KeyProtocol := .kitty
  /-- The enhancement flags of the kitty protocol. -/
  kittyFlags : Int := 0
  /-- Whether cursor keys send application sequences. -/
  applicationCursorKeys : Bool := false
  /-- Whether Enter sends a line feed after the carriage return. -/
  newlineMode : Bool := false
  /-- The level of the modify-other-keys mode, if it is on. -/
  modifyOtherKeys : Option Int := none
deriving Repr, DecidableEq

end TermPilot
