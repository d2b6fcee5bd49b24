import TermPilot.Keys.Basic
import TermPilot.Number.Numeral

/-!
# Names of key presses

A key press is written as any number of the marks `C-`, `A-` and `S-` followed by the name of a
key: a word such as `enter`, the letter `f` with a number, or a single character.
-/

namespace TermPilot

/-- The keys with a word for a name. -/
def Key.words : List (String × Key) :=
  [("esc", .named .escape), ("enter", .named .enter), ("ret", .named .enter),
   ("tab", .named .tab), ("backtab", .named .tab), ("backspace", .named .backspace),
   ("bs", .named .backspace), ("del", .named .delete), ("delete", .named .delete),
   ("insert", .named .insert), ("ins", .named .insert), ("home", .named .home),
   ("end", .named .endKey), ("pageup", .named .pageUp), ("pagedown", .named .pageDown),
   ("up", .named .up), ("down", .named .down), ("left", .named .left), ("right", .named .right),
   ("space", .char [' '])]

/-- The key that a word names. -/
def Key.ofWord? (word : Text) : Option Key :=
  (Key.words.find? fun (known, _) => known.toList = word).map Prod.snd

namespace KeyPress

/-- The greatest number that a function key can be named by. -/
def maxFunctionNumber : Nat := 255

/-- The modifiers added by the marks in front of a name, and the name. -/
def cutMarks (mods : Modifiers) : Text → Modifiers × Text
  | 'C' :: '-' :: rest => cutMarks { mods with ctrl := true } rest
  | 'A' :: '-' :: rest => cutMarks { mods with alt := true } rest
  | 'S' :: '-' :: rest => cutMarks { mods with shift := true } rest
  | t => (mods, t)

/-- The number of the function key that a name of two or more characters stands for. -/
def functionNumber? (name : Text) : Except NumeralError (Option Nat) :=
  match name with
  | f :: digits =>
    if (f = 'f' ∨ f = 'F') ∧ Text.isNumeral digits then do
      let number ← Numeral.plain digits
      return if number ≤ maxFunctionNumber then some number else none
    else return none
  | [] => return none

/-- The key press that a name stands for, if it stands for one. -/
def ofName? (name : Text) : Except NumeralError (Option KeyPress) :=
  let (mods, base) := cutMarks {} name
  match Key.ofWord? base with
  | some key =>
    return some ⟨key, { mods with shift := mods.shift || base == "backtab".toList }⟩
  | none =>
    match base with
    | [_] => return some ⟨.char base, mods⟩
    | _ => do
      let number ← functionNumber? base
      return number.map fun n => ⟨.function n, mods⟩

end KeyPress

end TermPilot
