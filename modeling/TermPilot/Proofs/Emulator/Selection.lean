import TermPilot.Proofs.Emulator.Palette
import TermPilot.Proofs.Number.Decimal
import TermPilot.Proofs.Screen.Styled
import TermPilot.Proofs.Text.Parts

/-!
# Sequences that select styles

The sequences written for a style are control sequences whose parameters are decimal numbers,
whatever its colours are, as long as these hold no minus sign: two digits with a sign would be
taken for a negative part of a colour. No colour that a program can select holds one.
-/

namespace TermPilot.Emulator

open Terminal

/-! ## Colours -/

/-- The colour is made of six hexadecimal digits, without capitals. -/
def IsHexColour (colour : Text) : Prop :=
  colour.length = 6 ∧ ∀ c ∈ colour, c ∈ "0123456789abcdef".toList

/-- A colour that can be selected where the given names can: the colour of the terminal itself, one
of the names, or six hexadecimal digits. -/
def IsColour (codes : List (String × Nat)) (colour : Text) : Prop :=
  colour = "default".toList ∨ colour ∈ codes.map (fun named => named.1.toList) ∨ IsHexColour colour

/-- Both colours of the style can be selected. The two grounds have names of their own. -/
structure Style.IsSelectable (style : Style) : Prop where
  /-- The colour of the character. -/
  fg : IsColour foregroundCodes style.fg
  /-- The colour behind it. -/
  bg : IsColour backgroundCodes style.bg

/-- The colours of the style hold no minus sign. -/
structure Style.IsUnsigned (style : Style) : Prop where
  /-- The colour of the character. -/
  fg : '-' ∉ style.fg
  /-- The colour behind it. -/
  bg : '-' ∉ style.bg

instance (colour : Text) : Decidable (IsHexColour colour) :=
  decidable_of_iff
    (colour.length = 6 ∧ colour.all (fun c => decide (c ∈ "0123456789abcdef".toList)) = true)
    (by simp only [IsHexColour, List.all_eq_true, decide_eq_true_iff])

instance (codes : List (String × Nat)) (colour : Text) : Decidable (IsColour codes colour) :=
  inferInstanceAs (Decidable (_ ∨ _))

instance (style : Style) : Decidable style.IsSelectable :=
  decidable_of_iff (IsColour foregroundCodes style.fg ∧ IsColour backgroundCodes style.bg)
    ⟨fun h => ⟨h.1, h.2⟩, fun h => ⟨h.fg, h.bg⟩⟩

instance (style : Style) : Decidable style.IsUnsigned :=
  decidable_of_iff ('-' ∉ style.fg ∧ '-' ∉ style.bg) ⟨fun h => ⟨h.1, h.2⟩, fun h => ⟨h.fg, h.bg⟩⟩

theorem IsColour.minus_not_mem {codes : List (String × Nat)} {colour : Text}
    (h : IsColour codes colour) (hnames : ∀ named ∈ codes, '-' ∉ named.1.toList) :
    '-' ∉ colour := by
  rcases h with rfl | hname | ⟨-, hdigits⟩
  · decide
  · obtain ⟨named, hmem, rfl⟩ := List.mem_map.mp hname
    exact hnames named hmem
  · exact fun hminus => absurd (hdigits '-' hminus) (by decide)

theorem Style.IsSelectable.isUnsigned {style : Style} (h : style.IsSelectable) :
    style.IsUnsigned where
  fg := h.fg.minus_not_mem fun _ hmem =>
    minus_not_mem_of_mem_codes (List.mem_append_left backgroundCodes hmem)
  bg := h.bg.minus_not_mem fun _ hmem =>
    minus_not_mem_of_mem_codes (List.mem_append_right foregroundCodes hmem)

/-! ## Parts of colours -/

theorem cutSign_of_not_mem {t : Text} (h : '-' ∉ t) : (Numeral.cutSign t).1 = false := by
  unfold Numeral.cutSign
  split
  · exact absurd List.mem_cons_self h
  · rfl
  · rfl

theorem mem_of_mem_strip {c : Char} {t : Text} (h : c ∈ Numeral.strip t) : c ∈ t := by
  have hend : c ∈ t.dropWhile Numeral.isNumberBlank :=
    (List.rdropWhile_prefix _ (t.dropWhile Numeral.isNumberBlank)).subset h
  exact (List.dropWhile_suffix _).subset hend

/-- Without a minus sign a part of a colour is no negative number. -/
theorem hexPart?_eq_coe {digits : Text} {part : Int} (hminus : '-' ∉ digits)
    (h : hexPart? digits = some part) : ∃ n : Nat, part = n := by
  have hsign : (Numeral.cutSign (Numeral.strip digits)).1 = false :=
    cutSign_of_not_mem fun hmem => hminus (mem_of_mem_strip hmem)
  unfold hexPart? Numeral.wholeIn at h
  simp only [hsign] at h
  cases hdigits : Numeral.groupedDigits 16 false (Numeral.cutSign (Numeral.strip digits)).2 with
  | none =>
    rw [hdigits] at h
    cases h
  | some values =>
    rw [hdigits] at h
    exact ⟨Numeral.ofDigits 16 values, (Option.some.inj h).symm⟩

theorem hexParts?_eq_coe {colour : Text} {parts : Int × Int × Int} (hminus : '-' ∉ colour)
    (h : hexParts? colour = some parts) :
    ∃ red green blue : Nat, parts = ((red : Int), (green : Int), (blue : Int)) := by
  unfold hexParts? at h
  split at h
  · next a b c d e f =>
    simp only [List.mem_cons, List.not_mem_nil, or_false, not_or] at hminus
    obtain ⟨ha, hb, hc, hd, he, hf⟩ := hminus
    obtain ⟨red, hred, h⟩ := Option.bind_eq_some_iff.mp h
    obtain ⟨green, hgreen, h⟩ := Option.bind_eq_some_iff.mp h
    obtain ⟨blue, hblue, h⟩ := Option.bind_eq_some_iff.mp h
    obtain ⟨r, rfl⟩ := hexPart?_eq_coe (by simp [ha, hb]) hred
    obtain ⟨g, rfl⟩ := hexPart?_eq_coe (by simp [hc, hd]) hgreen
    obtain ⟨b, rfl⟩ := hexPart?_eq_coe (by simp [he, hf]) hblue
    exact ⟨r, g, b, (Option.some.inj h).symm⟩
  · cases h

/-! ## Sequences of numbers -/

/-- The sequence with the given numbers as its parameters. -/
def selection (numbers : List Nat) : Text :=
  Screen.sgrSequence (Text.join [';'] (numbers.map Double.digits))

/-- The text is nothing but such sequences. -/
def IsSelection (t : Text) : Prop := ∃ parts : List (List Nat), t = parts.flatMap selection

section Selection

variable {numbers : List Nat} {t : Text}

theorem isParameters_join (numbers : List Nat) :
    Screen.IsParameters (Text.join [';'] (numbers.map Double.digits)) := by
  have hdigits : ∀ n, Screen.IsParameters (Double.digits n) := by
    intro n c hc
    rw [Screen.isSgrParameter, Double.isDigit_of_mem_digits hc]
    rfl
  induction numbers with
  | nil => exact fun c hc => absurd hc List.not_mem_nil
  | cons first rest ih =>
    cases rest with
    | nil => simpa [Text.join] using hdigits first
    | cons second rest =>
      rw [List.map_cons, List.map_cons, Text.join_cons_cons]
      intro c hc
      rcases List.mem_append.mp hc with hc | hc
      · rcases List.mem_append.mp hc with hc | hc
        · exact hdigits first c hc
        · rw [List.mem_singleton.mp hc]
          rfl
      · exact ih c hc

theorem isSelection_nil : IsSelection [] := ⟨[], rfl⟩

theorem isSelection_selection (numbers : List Nat) : IsSelection (selection numbers) :=
  ⟨[numbers], (List.append_nil _).symm⟩

theorem IsSelection.append {a b : Text} (ha : IsSelection a) (hb : IsSelection b) :
    IsSelection (a ++ b) := by
  obtain ⟨first, rfl⟩ := ha
  obtain ⟨second, rfl⟩ := hb
  exact ⟨first ++ second, List.flatMap_append.symm⟩

theorem IsSelection.isStyled (h : IsSelection t) : Screen.IsStyled t := by
  obtain ⟨parts, rfl⟩ := h
  induction parts with
  | nil => exact .nil
  | cons numbers parts ih => exact .sequence (isParameters_join numbers) ih

theorem IsSelection.strip_append (h : IsSelection t) (rest : Text) :
    Screen.strip (t ++ rest) = Screen.strip rest := by
  obtain ⟨parts, rfl⟩ := h
  induction parts with
  | nil => rfl
  | cons numbers parts ih =>
    rw [List.flatMap_cons, List.append_assoc, selection,
      Screen.strip_sgr_append (isParameters_join numbers), ih]

/-- The sequences hold no control character below the escape character. -/
theorem IsSelection.not_mem (h : IsSelection t) {c : Char} (hc : c.toNat < 0x1B) : c ∉ t := by
  obtain ⟨parts, rfl⟩ := h
  intro hmem
  obtain ⟨numbers, -, hmem⟩ := List.mem_flatMap.mp hmem
  refine Screen.not_mem_sgr (isParameters_join numbers) ?_ ?_ ?_ ?_ hmem
  · by_contra hparameter
    have hlow := (Screen.bounds_of_isSgrParameter (by simpa using hparameter)).1
    omega
  · rintro rfl
    exact absurd hc (by decide)
  · rintro rfl
    exact absurd hc (by decide)
  · rintro rfl
    exact absurd hc (by decide)

end Selection

/-! ## Sequences of a style -/

theorem reset_eq : reset = selection [] := rfl

section Colour

variable {codes : List (String × Nat)} {extended : Nat} {colour : Text}

theorem colourSequence_default (codes : List (String × Nat)) (extended : Nat) :
    colourSequence codes extended "default".toList = [] := if_pos rfl

theorem colourSequence_named (hdefault : colour ≠ "default".toList) {code : Nat}
    (h : codeOf? codes colour = some code) :
    colourSequence codes extended colour = selection [code] := by
  rw [colourSequence, if_neg hdefault, h]
  simp [selection, Screen.sgrSequence, controlSequence, Text.join, Double.digits]

theorem colourSequence_parts (hdefault : colour ≠ "default".toList)
    (hcode : codeOf? codes colour = none) {red green blue : Nat}
    (h : hexParts? colour = some ((red : Int), (green : Int), (blue : Int))) :
    colourSequence codes extended colour = selection [extended, 2, red, green, blue] := by
  have hnumber : ∀ n : Nat, (n : Int).repr.toList = Double.digits n :=
    fun n => (Nat.toList_repr : n.repr.toList = _)
  have htwo : Double.digits 2 = ['2'] := rfl
  have hnext : (toString ";").toList = [';'] := rfl
  have hmodel : (toString ";2;").toList = [';', '2', ';'] := rfl
  rw [colourSequence, if_neg hdefault, hcode, h]
  simp [selection, Screen.sgrSequence, controlSequence, Text.join, hnumber, htwo, hnext, hmodel,
    ← Double.toList_toString extended]

theorem isSelection_colourSequence (h : '-' ∉ colour) :
    IsSelection (colourSequence codes extended colour) := by
  by_cases hdefault : colour = "default".toList
  · rw [hdefault, colourSequence_default]
    exact isSelection_nil
  cases hcode : codeOf? codes colour with
  | some code =>
    rw [colourSequence_named hdefault hcode]
    exact isSelection_selection _
  | none =>
    cases hparts : hexParts? colour with
    | none =>
      rw [colourSequence, if_neg hdefault, hcode, hparts]
      exact isSelection_nil
    | some parts =>
      obtain ⟨red, green, blue, rfl⟩ := hexParts?_eq_coe h hparts
      rw [colourSequence_parts hdefault hcode hparts]
      exact isSelection_selection _

end Colour

theorem attributeSequence_eq (style : Style) : style.attributeSequence =
    if style.attributeCodes = [] then [] else selection style.attributeCodes := by
  unfold Style.attributeSequence
  cases style.attributeCodes with
  | nil => rfl
  | cons code codes =>
    have hdigits : (String.toList ∘ toString : Nat → Text) = Double.digits :=
      funext Double.toList_toString
    have hparameters : (String.intercalate ";" ((code :: codes).map toString)).toList =
        Text.join [';'] ((code :: codes).map Double.digits) := by
      rw [String.toList_intercalate, List.map_map, hdigits]
      rfl
    rw [if_neg (List.cons_ne_nil code codes)]
    show controlSequence (String.intercalate ";" ((code :: codes).map toString)) "m" = _
    rw [controlSequence, hparameters]
    rfl

theorem isSelection_attributeSequence (style : Style) :
    IsSelection style.attributeSequence := by
  rw [attributeSequence_eq]
  split
  · exact isSelection_nil
  · exact isSelection_selection _

theorem Style.IsUnsigned.isSelection_sequence {style : Style} (h : style.IsUnsigned) :
    IsSelection style.sequence :=
  ((isSelection_attributeSequence style).append (isSelection_colourSequence h.fg)).append
    (isSelection_colourSequence h.bg)

theorem isSelection_leave (style : Style) : IsSelection style.leave := by
  unfold Style.leave
  split
  · exact isSelection_nil
  · exact isSelection_selection []

end TermPilot.Emulator
