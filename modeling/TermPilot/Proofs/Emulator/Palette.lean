import TermPilot.Emulator.Render

/-!
# What is used of the palette

The tables of the palette belong to the emulator library, and only this module looks into them. What
is rendered can be read back, trimmed and searched with any palette of which these facts hold.
-/

namespace TermPilot.Emulator

variable {name : String} {code : Nat}

/-- The name of a foreground is the one of its code. -/
theorem nameOf?_foregroundCodes (h : (name, code) ∈ foregroundCodes) :
    nameOf? foregroundCodes code = some name.toList := by
  have hall : ∀ named ∈ foregroundCodes,
      nameOf? foregroundCodes named.2 = some named.1.toList := by decide
  exact hall (name, code) h

/-- The name of a background is the one of its code, which is the code of no foreground. -/
theorem nameOf?_backgroundCodes (h : (name, code) ∈ backgroundCodes) :
    nameOf? foregroundCodes code = none ∧ nameOf? backgroundCodes code = some name.toList := by
  have hall : ∀ named ∈ backgroundCodes, nameOf? foregroundCodes named.2 = none ∧
      nameOf? backgroundCodes named.2 = some named.1.toList := by decide
  exact hall (name, code) h

/-- No code of the palette resets the style or the foreground or asks for a colour behind it. -/
theorem ne_of_mem_codes (h : (name, code) ∈ foregroundCodes ++ backgroundCodes) :
    code ≠ 0 ∧ code ≠ 38 ∧ code ≠ 39 ∧ code ≠ 48 := by
  have hall : ∀ named ∈ foregroundCodes ++ backgroundCodes,
      named.2 ≠ 0 ∧ named.2 ≠ 38 ∧ named.2 ≠ 39 ∧ named.2 ≠ 48 := by decide
  exact hall (name, code) h

/-- No name of the palette is taken for the digits of a colour. -/
theorem hexParts?_of_mem_codes (h : (name, code) ∈ foregroundCodes ++ backgroundCodes) :
    hexParts? name.toList = none := by
  have hall : ∀ named ∈ foregroundCodes ++ backgroundCodes,
      hexParts? named.1.toList = none := by decide
  exact hall (name, code) h

theorem minus_not_mem_of_mem_codes (h : (name, code) ∈ foregroundCodes ++ backgroundCodes) :
    '-' ∉ name.toList := by
  have hall : ∀ named ∈ foregroundCodes ++ backgroundCodes, '-' ∉ named.1.toList := by decide
  exact hall (name, code) h

end TermPilot.Emulator
