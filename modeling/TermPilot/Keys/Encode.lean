import TermPilot.Keys.Basic
import TermPilot.Number.Decimal
import TermPilot.Number.Numeral
import TermPilot.Terminal.Sequence
import TermPilot.Text.Case
import TermPilot.Text.Quoted

/-!
# Encoding of key presses

The bytes that a terminal sends for a key press. The legacy sequences come first; what they cannot
express is sent as `CSI code ; modifiers u` in the kitty protocol and is an error without it.
-/

namespace TermPilot

/-- Why a key press has no encoding. -/
inductive KeyEncodingError where
  /-- A modify-other-keys mode is on. -/
  | modifyOtherKeys (level : Int)
  /-- Enhancement flags of the kitty protocol are set. -/
  | kittyFlags (flags : Int)
  /-- The text of a character key is not one character. -/
  | notOneCharacter (text : Text)
  /-- There is no function key of the number. -/
  | noFunctionKey (number : Int)
  /-- The legacy sequences cannot express the code point with the modifiers. -/
  | notLegacy (codepoint : Nat) (mods : Modifiers)
  /-- An encoder given by the caller refused the key. -/
  | rejected (key : Text)
  /-- The lower case of a character held with Control is several characters. -/
  | lowerCaseSplits (char : Char)
  /-- The message would hold a whole number of more than `Numeral.maxDigits` digits. -/
  | numeralTooLong (number : Int)
deriving Repr, DecidableEq

/-- A whole number in hexadecimal digits. -/
def hexadecimal (n : Int) : Text :=
  let body := '0' :: 'x' :: Nat.toDigits 16 n.natAbs
  if n < 0 then '-' :: body else body

/-- The message for an error. -/
def KeyEncodingError.message : KeyEncodingError → String
  | .modifyOtherKeys level => s!"modifyOtherKeys level {level} is not supported"
  | .kittyFlags flags =>
    let shown := Text.string (hexadecimal flags)
    s!"kitty keyboard flags {shown} are not supported"
  | .notOneCharacter text =>
    let shown := Text.string (Text.quoted text)
    s!"Character keys must be a single character, got {shown}"
  | .noFunctionKey number => s!"No encoding for function key F{number}"
  | .notLegacy codepoint mods =>
    let shown := mods.display
    s!"Legacy encoding cannot express codepoint {codepoint} with modifiers {shown}"
  | .rejected key =>
    let shown := Text.string key
    s!"rejected {shown}"
  | .lowerCaseSplits char =>
    let shown := Text.string (Text.quoted [char])
    s!"The lower case of {shown} is more than one character"
  | .numeralTooLong _ => Numeral.unwritableMessage

/-- An error whose message holds a whole number, which must not have too many digits for it. -/
def KeyEncodingError.naming (number : Int) (error : KeyEncodingError) : KeyEncodingError :=
  if IsWritable number then error else .numeralTooLong number

/-- A way of encoding key presses. -/
abbrev KeyEncoder := Key → Modifiers → KeyModes → Except KeyEncodingError Text

/-- A way of encoding key presses that may remember what it was asked; `τ` is its memory. -/
abbrev RecallingEncoder (τ : Type) :=
  Key → Modifiers → KeyModes → StateM τ (Except KeyEncodingError Text)

/-- A way of encoding key presses, as one that remembers nothing. -/
def KeyEncoder.recalling (encoder : KeyEncoder) : RecallingEncoder Unit :=
  fun key mods modes => return encoder key mods modes

namespace KeyEncoder

open Terminal

/-- The escape character that Alt puts in front of a key. -/
def altMark (mods : Modifiers) : Text := if mods.alt then [esc] else []

/-- A key as its code point and modifiers, which only the kitty protocol has. -/
def codepointSequence (codepoint : Nat) (mods : Modifiers) (modes : KeyModes) :
    Except KeyEncodingError Text :=
  match modes.encoding with
  | .legacy => .error (.notLegacy codepoint mods)
  | .kitty => .ok (controlSequence s!"{codepoint};{mods.parameter}" "u")

/-- The control character that a key has together with Control. -/
def controlSymbol? : Char → Option Char
  | '@' => some '\x00'
  | ' ' => some '\x00'
  | '[' => some '\x1b'
  | '\\' => some '\x1c'
  | ']' => some '\x1d'
  | '^' => some '\x1e'
  | '_' => some '\x1f'
  | '?' => some '\x7f'
  | _ => none

/-- The control character for a character, if there is one. A letter is looked up by its lower
case, which must then be a single character. -/
def controlChar? (char : Char) : Except KeyEncodingError (Option Char) :=
  match Text.lowerChar char with
  | [lowered] =>
    if 'a' ≤ lowered ∧ lowered ≤ 'z' then .ok (some (Char.ofNat (lowered.toNat - 'a'.toNat + 1)))
    else .ok (controlSymbol? char)
  | first :: _ =>
    if 'a' ≤ first ∧ first < 'z' then .error (.lowerCaseSplits char)
    else .ok (controlSymbol? char)
  | [] => .ok (controlSymbol? char)

/-- The only character of an image, or the character itself. -/
def singleOr (char : Char) (image : Text) : Char :=
  match image with
  | [c] => c
  | _ => char

/-- The encoding of a character key. -/
def character (char : Char) (mods : Modifiers) (modes : KeyModes) :
    Except KeyEncodingError Text :=
  let lowered := (singleOr char (Text.lowerChar char)).toNat
  match mods.shift, mods.ctrl with
  | false, false => .ok (altMark mods ++ [char])
  | true, false => .ok (altMark mods ++ [singleOr char (Text.upperChar char)])
  | false, true => do
    match ← controlChar? char with
    | some control => return altMark mods ++ [control]
    | none => codepointSequence lowered mods modes
  | true, true => codepointSequence lowered mods modes

/-- The encoding of a key that sends `plain` by itself and has a code point. -/
def controlKey (plain : Text) (codepoint : Nat) (mods : Modifiers) (modes : KeyModes) :
    Except KeyEncodingError Text :=
  if mods.shift || mods.ctrl then codepointSequence codepoint mods modes
  else .ok (altMark mods ++ plain)

/-- The encoding of a key with a final letter, the introducer being used without modifiers. -/
def lettered (introducer : Text) (final : String) (mods : Modifiers) : Text :=
  if mods = {} then introducer ++ final.toList
  else controlSequence s!"1;{mods.parameter}" final

/-- The encoding of a key with a number. -/
def numbered (number : Nat) (mods : Modifiers) : Text :=
  if mods = {} then controlSequence s!"{number}" "~"
  else controlSequence s!"{number};{mods.parameter}" "~"

/-- The encoding of a key with a name. -/
def namedKey (key : NamedKey) (mods : Modifiers) (modes : KeyModes) :
    Except KeyEncodingError Text :=
  let cursor (final : String) : Except KeyEncodingError Text :=
    .ok (lettered [esc, if modes.applicationCursorKeys then 'O' else '['] final mods)
  match key with
  | .up => cursor "A"
  | .down => cursor "B"
  | .right => cursor "C"
  | .left => cursor "D"
  | .home => cursor "H"
  | .endKey => cursor "F"
  | .insert => .ok (numbered 2 mods)
  | .delete => .ok (numbered 3 mods)
  | .pageUp => .ok (numbered 5 mods)
  | .pageDown => .ok (numbered 6 mods)
  | .escape => controlKey [esc] 27 mods modes
  | .enter => controlKey (if modes.newlineMode then ['\r', '\n'] else ['\r']) 13 mods modes
  | .tab =>
    if mods.shift && !mods.ctrl then .ok (altMark mods ++ controlSequence "" "Z")
    else controlKey ['\t'] 9 mods modes
  | .backspace =>
    if mods.ctrl && !mods.shift then .ok (altMark mods ++ ['\x08'])
    else controlKey ['\x7f'] 127 mods modes

/-- The final letters of the first four function keys. -/
def functionFinal? : Int → Option String
  | 1 => some "P"
  | 2 => some "Q"
  | 3 => some "R"
  | 4 => some "S"
  | _ => none

/-- The numbers of the function keys from the fifth to the twelfth. -/
def functionCode? : Int → Option Nat
  | 5 => some 15
  | 6 => some 17
  | 7 => some 18
  | 8 => some 19
  | 9 => some 20
  | 10 => some 21
  | 11 => some 23
  | 12 => some 24
  | _ => none

/-- The code point of the thirteenth function key in the kitty protocol. -/
def firstFunctionCodepoint : Nat := 57376

/-- The number of the last function key. -/
def lastFunctionKey : Int := 35

/-- The encoding of a function key. -/
def functionKey (number : Int) (mods : Modifiers) (modes : KeyModes) :
    Except KeyEncodingError Text :=
  match functionFinal? number with
  | some final => .ok (lettered [esc, 'O'] final mods)
  | none => match functionCode? number with
    | some code => .ok (numbered code mods)
    | none =>
      if 13 ≤ number ∧ number ≤ lastFunctionKey then
        let codepoint := firstFunctionCodepoint + (number - 13).toNat
        if mods = {} ∧ modes.encoding = .kitty then .ok (controlSequence s!"{codepoint}" "u")
        else codepointSequence codepoint mods modes
      else .error (.naming number (.noFunctionKey number))

/-- The modes that have encodings. -/
def checkModes (modes : KeyModes) : Except KeyEncodingError Unit :=
  match modes.modifyOtherKeys with
  | some level => .error (.naming level (.modifyOtherKeys level))
  | none =>
    if modes.encoding = .kitty ∧ modes.kittyFlags ≠ 0 then .error (.kittyFlags modes.kittyFlags)
    else .ok ()

/-- The encoding that terminals use. -/
def standard : KeyEncoder := fun key mods modes => do
  checkModes modes
  match key with
  | .function number => functionKey number mods modes
  | .char [char] => character char mods modes
  | .char text => .error (.notOneCharacter text)
  | .named key => namedKey key mods modes

end KeyEncoder

end TermPilot
