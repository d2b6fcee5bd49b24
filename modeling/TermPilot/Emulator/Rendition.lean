import TermPilot.Emulator.Cell
import TermPilot.Emulator.Palette

/-!
# Renditions

The parameters of one control sequence select a style. Two of them, for the foreground and for the
background, take a colour from the parameters after them: by an index, or by its parts.
-/

namespace TermPilot.Emulator

/-- A colour taken from the parameters after the one that asks for it, and the parameters after
the colour. An incomplete colour takes all of them and is none. -/
def takeColour : List Nat → Option Text × List Nat
  | 5 :: index :: rest => (indexed? index, rest)
  | 2 :: red :: green :: blue :: rest => (some (hexColour red green blue), rest)
  | 5 :: _ => (none, [])
  | 2 :: _ => (none, [])
  | _ :: rest => (none, rest)
  | [] => (none, [])

theorem length_takeColour (parameters : List Nat) :
    (takeColour parameters).2.length ≤ parameters.length := by
  unfold takeColour
  split <;> simp <;> omega

/-- The style after a parameter that stands for itself; unknown ones change nothing. -/
def Style.select (style : Style) (code : Nat) : Style :=
  match nameOf? foregroundCodes code, nameOf? backgroundCodes code with
  | some name, _ => { style with fg := name }
  | none, some name => { style with bg := name }
  | none, none =>
    match code with
    | 0 => {}
    | 1 => { style with bold := true }
    | 3 => { style with italics := true }
    | 4 => { style with underscore := true }
    | 5 => { style with blink := true }
    | 7 => { style with reverse := true }
    | 9 => { style with strikethrough := true }
    | 22 => { style with bold := false }
    | 23 => { style with italics := false }
    | 24 => { style with underscore := false }
    | 25 => { style with blink := false }
    | 27 => { style with reverse := false }
    | 29 => { style with strikethrough := false }
    | 39 => { style with fg := "default".toList }
    | 49 => { style with bg := "default".toList }
    | _ => style

/-- The style after all parameters of a control sequence. -/
def Style.selectAll (style : Style) : List Nat → Style
  | [] => style
  | 38 :: rest =>
    selectAll { style with fg := (takeColour rest).1.getD style.fg } (takeColour rest).2
  | 48 :: rest =>
    selectAll { style with bg := (takeColour rest).1.getD style.bg } (takeColour rest).2
  | code :: rest => selectAll (style.select code) rest
termination_by parameters => parameters.length
decreasing_by
  all_goals simp_wf
  all_goals have := length_takeColour rest
  all_goals omega

end TermPilot.Emulator
