import TermPilot.Keys.Encode

/-!
# Encoders for tests

Encoders that show what they were asked to encode, so that a test can see which keys, modifiers
and modes reach the encoder.
-/

namespace TermPilot

/-- The name of a key. -/
def NamedKey.name : NamedKey → String
  | .escape => "escape"
  | .enter => "enter"
  | .tab => "tab"
  | .backspace => "backspace"
  | .delete => "delete"
  | .insert => "insert"
  | .home => "home"
  | .endKey => "end"
  | .pageUp => "pageup"
  | .pageDown => "pagedown"
  | .up => "up"
  | .down => "down"
  | .left => "left"
  | .right => "right"

/-- The keys with a name. -/
def NamedKey.all : List NamedKey :=
  [.escape, .enter, .tab, .backspace, .delete, .insert, .home, .endKey, .pageUp, .pageDown, .up,
   .down, .left, .right]

/-- A key as its name, its number or its character. -/
def Key.label : Key → Text
  | .named key => key.name.toList
  | .function number => (toString number).toList
  | .char text => text

/-- The name of a family of escape sequences. -/
def KeyProtocol.name : KeyProtocol → String
  | .legacy => "legacy"
  | .kitty => "kitty"

namespace KeyEncoder

/-- Shows the key, the modifiers and the protocol instead of an escape sequence. -/
def labelled : KeyEncoder := fun key mods modes =>
  .ok ('<' :: key.label ++ '|' :: ("+".intercalate mods.names).toList ++
    '|' :: modes.encoding.name.toList ++ ['>'])

/-- Encodes every key as nothing. -/
def silent : KeyEncoder := fun _ _ _ => .ok []

/-- Refuses all keys held with Control and shows the others. -/
def withoutControl : KeyEncoder := fun key mods modes =>
  if mods.ctrl then .error (.rejected key.label) else labelled key mods modes

/-- Shows as many keys as it remembers to have left and refuses all after them. -/
def rationed : RecallingEncoder Nat := fun key mods modes => do
  match ← get with
  | 0 => return .error (.rejected key.label)
  | left + 1 => do
    set left
    return labelled key mods modes

end KeyEncoder

end TermPilot
