import TermPilot.Keys.Name
import TermPilot.Terminal.Script

/-!
# Typing

Sending key presses and text to a terminal.
-/

namespace TermPilot.Typing

variable {τ : Type}

/-- What becomes of a name, by the answer of an encoder to the key press that it stands for. -/
def outcomeOf (answer : Except KeyEncodingError Text) : Except Fault (Option Text) :=
  match answer with
  | .error error => .error (.encoding error)
  | .ok text => .ok (some text)

/-- The encoding of the key press that a name stands for, nothing if it stands for none. -/
def encodeName (encoder : KeyEncoder) (modes : KeyModes) (name : Text) :
    Except Fault (Option Text) :=
  match KeyPress.ofName? name with
  | .error error => .error (.ofNumeral error)
  | .ok none => .ok none
  | .ok (some press) => outcomeOf (encoder press.key press.mods modes)

/-- The same with an encoder that may remember what it was asked. It is asked only for names that
stand for a key press. -/
def askName (encoder : RecallingEncoder τ) (modes : KeyModes) (name : Text) :
    StateM τ (Except Fault (Option Text)) :=
  match KeyPress.ofName? name with
  | .error error => return .error (.ofNumeral error)
  | .ok none => return .ok none
  | .ok (some press) => outcomeOf <$> encoder press.key press.mods modes

/-- What becomes of names, one after the other, up to the first that fails. -/
structure Encodings where
  /-- The names that did not fail, each with its encoding, if it stands for a key press. -/
  found : List (Text × Option Text) := []
  /-- The failure of the name behind them, if there is one. -/
  failure : Option Fault := none

/-- Encodes the key presses of names one after the other. Behind a name that fails none is looked
at. -/
def encodeNames (encoder : RecallingEncoder τ) (modes : KeyModes) : List Text → StateM τ Encodings
  | [] => return {}
  | name :: names => do
    match ← askName encoder modes name with
    | .error fault => return { failure := some fault }
    | .ok encoded => do
      let later ← encodeNames encoder modes names
      return { later with found := (name, encoded) :: later.found }

/-- The record of a name that stands for no key press. -/
def unresolved (name : Text) : LogRecord :=
  .debug "keys" s!"Skipping unresolved key name {Text.string (Text.quoted name)}"

/-- Sends each key press on its own. -/
def keys (encoder : KeyEncoder) (modes : KeyModes) (presses : List KeyPress) : Script :=
  .sequence (presses.map fun press => .sendEncoded (encoder press.key press.mods modes))

/-- Sends a character with Alt, as the escape character in front of it. -/
def altKey (char : Text) : Script := .of [.send (Terminal.esc :: char)]

/-- Sends each character on its own, with a pause after it if `delay` is positive. -/
def text (delay : Float) (t : Text) : Script :=
  .of (t.flatMap fun c => .send [c] :: if delay > 0 then [.pause delay] else [])

/-- The key press that runs typed text. -/
def execute : KeyPress := ⟨.char ['j'], { ctrl := true }⟩

/-- Types a text and runs it. The key press that runs it is encoded under the default modes. -/
def textAndExecute (encoder : KeyEncoder) (t : Text) : Script :=
  (text 0 t).andThen (keys encoder {} [execute])

end TermPilot.Typing
