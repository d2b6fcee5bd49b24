import TermPilot.Proofs.Emulator.Render
import TermPilot.Proofs.Screen.Parameters

/-!
# The foreground at a text of a rendered row

Where the foreground at a text is looked up in a rendered row, the answer is the colour of the cell
that holds the last character of the text, if that colour is made of digits. The invariant of the
rendering is that the foreground in effect is the one of the style that the renderer takes for the
current one: a named colour or the colour of the terminal itself is always written on no foreground.
-/

namespace TermPilot.Emulator

open Terminal
open TermPilot.Screen (Rgb Tinted tinted foregroundPast foregroundAfter)

/-! ## Colours -/

/-- A colour of one of the grounds: the colour of the terminal itself, a name of either palette, or
six hexadecimal digits. -/
def IsCellColour (colour : Text) : Prop := IsColour (foregroundCodes ++ backgroundCodes) colour

instance (colour : Text) : Decidable (IsCellColour colour) :=
  inferInstanceAs (Decidable (IsColour _ _))

/-- Both colours of the cell are colours of a ground, and none of its characters starts an escape
sequence. -/
structure Cell.IsColoured (cell : Cell) : Prop where
  /-- The cell holds no escape character. -/
  noEscape : esc ∉ cell.data
  /-- The colour of the character. -/
  fg : IsCellColour cell.style.fg
  /-- The colour behind it. -/
  bg : IsCellColour cell.style.bg

instance (cell : Cell) : Decidable cell.IsColoured :=
  decidable_of_iff (esc ∉ cell.data ∧ IsCellColour cell.style.fg ∧ IsCellColour cell.style.bg)
    ⟨fun h => ⟨h.1, h.2.1, h.2.2⟩, fun h => ⟨h.noEscape, h.fg, h.bg⟩⟩

/-- Red, green and blue of a colour of six digits. Any other colour has none. -/
def rgbOf? (colour : Text) : Option Rgb :=
  (hexParts? colour).map fun (red, green, blue) => ⟨red.toNat, green.toNat, blue.toNat⟩

/-- The characters of a cell, each with the cell. -/
def Cell.owned (cell : Cell) : List (Char × Cell) := cell.data.map (·, cell)

/-- The characters of a cell, each with the foreground of the cell. -/
def Cell.tinted (cell : Cell) : List Tinted := cell.data.map (·, rgbOf? cell.style.fg)

section Rgb

theorem rgbOf?_default : rgbOf? "default".toList = none := by decide

theorem hexParts?_name {colour : Text}
    (h : colour ∈ (foregroundCodes ++ backgroundCodes).map fun named => named.1.toList) :
    hexParts? colour = none := by
  obtain ⟨named, hmem, rfl⟩ := List.mem_map.mp h
  exact hexParts?_of_mem_codes hmem

theorem rgbOf?_hexColour {red green blue : Nat} (hred : red < 256) (hgreen : green < 256)
    (hblue : blue < 256) : rgbOf? (hexColour red green blue) = some ⟨red, green, blue⟩ := by
  rw [rgbOf?, hexParts?_hexColour hred hgreen hblue]
  rfl

/-- Only colours of six digits have a red, a green and a blue. -/
theorem rgbOf?_eq_none {colour : Text} (h : IsCellColour colour) (hnot : ¬ IsHexColour colour) :
    rgbOf? colour = none := by
  rcases h with rfl | hname | hhex
  · exact rgbOf?_default
  · rw [rgbOf?, hexParts?_name hname]
    rfl
  · exact absurd hhex hnot

end Rgb

/-! ## Parameters and the foreground -/

section Parameters

variable {current : Option Rgb}

/-- The code neither resets the foreground nor takes a colour from the parameters after it. -/
def IsNeutral (code : Nat) : Prop := code ≠ 0 ∧ code ≠ 38 ∧ code ≠ 39 ∧ code ≠ 48

instance (code : Nat) : Decidable (IsNeutral code) := inferInstanceAs (Decidable (_ ∧ _))

theorem foregroundPast_selection {numbers : List Nat} (hne : numbers ≠ []) :
    foregroundPast current (selection numbers) =
      foregroundAfter 0 current (numbers.map Double.digits) := by
  have hjoined : Screen.IsSeparated (numbers.map Double.digits) _ :=
    Screen.isSeparated_join (by simpa using hne)
  rw [foregroundPast, selection, Screen.sgrParameters?_sgr (isParameters_join numbers)]
  exact Screen.applyForeground_splitParameters hjoined (isNumeric_map_digits numbers) current

theorem foregroundPast_reset : foregroundPast current reset = .ok none := by
  rw [foregroundPast, reset_eq, selection, Screen.sgrParameters?_sgr (isParameters_join [])]
  rfl

theorem IsNeutral.digits {code : Nat} (h : IsNeutral code) :
    ¬ Screen.Resets (Double.digits code) ∧ ¬ Screen.Introduces (Double.digits code) := by
  obtain ⟨hzero, hset, hdefault, hbehind⟩ := h
  have hdigits {n : Nat} (hn : code ≠ n) : Double.digits code ≠ Double.digits n :=
    fun heq => hn (Double.digits_injective heq)
  constructor
  · rintro (hnil | hreset | hreset)
    · exact Double.digits_ne_nil code hnil
    · exact hdigits hzero hreset
    · exact hdigits hdefault hreset
  · rintro (htake | htake)
    · exact hdigits hset htake
    · exact hdigits hbehind htake

theorem foregroundAfter_neutral {codes : List Nat} (h : ∀ code ∈ codes, IsNeutral code) :
    foregroundAfter 0 current (codes.map Double.digits) = .ok current := by
  induction codes with
  | nil => rfl
  | cons code codes ih =>
    obtain ⟨hcode, hcodes⟩ := List.forall_mem_cons.mp h
    rw [List.map_cons, Screen.foregroundAfter_idle hcode.digits.1 hcode.digits.2, ih hcodes]

section Parts

variable {red green blue : Nat} (hred : red < 256) (hgreen : green < 256) (hblue : blue < 256)

include hred hgreen hblue

theorem colourSpec_parts : Screen.colourSpec ([2, red, green, blue].map Double.digits) =
    .ok ⟨some ⟨red, green, blue⟩, none, 4⟩ := by
  have hcolour : Rgb.ofComponents (.ofByte red hred) (.ofByte green hgreen) (.ofByte blue hblue) =
      ⟨red, green, blue⟩ := by
    simp only [Rgb.ofComponents, Screen.Component.value_ofByte]
  have hspec := Screen.colourSpec_components (Screen.Component.isShort_ofByte hred)
    (Screen.Component.isShort_ofByte hgreen) (Screen.Component.isShort_ofByte hblue) []
  rw [hcolour] at hspec
  exact hspec

/-- The sequence for a foreground of six digits sets the foreground. -/
theorem foregroundAfter_foreground :
    foregroundAfter 0 current ([38, 2, red, green, blue].map Double.digits) =
      .ok (some ⟨red, green, blue⟩) :=
  Screen.foregroundAfter_of_spec (colourSpec_parts hred hgreen hblue) (Or.inl rfl) current

/-- The sequence for a background of six digits is skipped as a whole. -/
theorem foregroundAfter_background :
    foregroundAfter 0 current ([48, 2, red, green, blue].map Double.digits) = .ok current :=
  Screen.foregroundAfter_of_spec (colourSpec_parts hred hgreen hblue) (Or.inr rfl) current

end Parts

end Parameters

/-! ## Texts that lead from one foreground to another -/

/-- The text shows nothing, and the foreground after it is `last` if it is `first` before it. -/
def Tints (t : Text) (first last : Option Rgb) : Prop :=
  ∀ rest, tinted first (Screen.pieces (t ++ rest)) = tinted last (Screen.pieces rest)

section Tints

variable {a b : Text} {first second third : Option Rgb} {colour : Text}

theorem tints_nil (colour : Option Rgb) : Tints [] colour colour := fun _ => rfl

theorem Tints.append (ha : Tints a first second) (hb : Tints b second third) :
    Tints (a ++ b) first third := by
  intro rest
  rw [List.append_assoc, ha, hb]

theorem tints_selection {numbers : List Nat}
    (h : foregroundPast first (selection numbers) = .ok second) :
    Tints (selection numbers) first second := by
  intro rest
  have hpieces : Screen.pieces (selection numbers ++ rest) =
      .sequence (selection numbers) :: Screen.pieces rest :=
    Screen.pieces_sgr (isParameters_join numbers) rest
  rw [hpieces, Screen.tinted_sequence h]

theorem tints_codes {codes : List Nat} (hne : codes ≠ []) (h : ∀ code ∈ codes, IsNeutral code)
    (current : Option Rgb) : Tints (selection codes) current current :=
  tints_selection (by rw [foregroundPast_selection hne, foregroundAfter_neutral h])

theorem tints_attributeSequence (style : Style) (current : Option Rgb) :
    Tints style.attributeSequence current current := by
  have hneutral : ∀ code ∈ [1, 3, 4, 5, 7, 9], IsNeutral code := by decide
  rw [attributeSequence_eq]
  split
  · exact tints_nil current
  · next hne => exact tints_codes hne (fun code hcode => hneutral code (mem_attributeCodes hcode)) _

/-- The sequence of a colour leads from one foreground to another if its parts do, and if these are
the same for a colour without parts. -/
theorem tints_colourSequence {codes : List (String × Nat)} {extended : Nat}
    (hcodes : ∀ named ∈ codes, named ∈ foregroundCodes ++ backgroundCodes)
    (h : IsCellColour colour) (hnone : rgbOf? colour = none → first = second)
    (hparts : ∀ red < 256, ∀ green < 256, ∀ blue < 256,
      rgbOf? colour = some ⟨red, green, blue⟩ →
        foregroundAfter 0 first ([extended, 2, red, green, blue].map Double.digits) =
          .ok second) :
    Tints (colourSequence codes extended colour) first second := by
  by_cases hdefault : colour = "default".toList
  · obtain rfl := hnone (hdefault ▸ rgbOf?_default)
    rw [hdefault, colourSequence_default]
    exact tints_nil first
  cases hcode : codeOf? codes colour with
  | some code =>
    obtain ⟨named, hfound, rfl⟩ := Option.map_eq_some_iff.mp hcode
    have hmem := hcodes named (List.mem_of_find?_eq_some hfound)
    have hneutral : IsNeutral named.2 := ne_of_mem_codes hmem
    have hname : named.1.toList = colour := by simpa using List.find?_some hfound
    have hnorgb : rgbOf? colour = none := by
      rw [rgbOf?, hexParts?_name (List.mem_map.mpr ⟨named, hmem, hname⟩)]
      rfl
    obtain rfl := hnone hnorgb
    rw [colourSequence_named hdefault hcode]
    exact tints_codes (List.cons_ne_nil _ _) (by simpa using hneutral) first
  | none =>
    rcases h.resolve_left hdefault with hname | hhex
    · -- a name that the ground does not have is written as nothing
      have hempty : colourSequence codes extended colour = [] := by
        rw [colourSequence, if_neg hdefault, hcode, hexParts?_name hname]
      have hnorgb : rgbOf? colour = none := by
        rw [rgbOf?, hexParts?_name hname]
        rfl
      obtain rfl := hnone hnorgb
      rw [hempty]
      exact tints_nil first
    · obtain ⟨red, hred, green, hgreen, blue, hblue, rfl⟩ := hhex.exists_parts
      rw [colourSequence_parts hdefault hcode (hexParts?_hexColour hred hgreen hblue)]
      refine tints_selection ?_
      rw [foregroundPast_selection (List.cons_ne_nil _ _)]
      exact hparts red hred green hgreen blue hblue (rgbOf?_hexColour hred hgreen hblue)

/-- The sequence of a foreground sets the foreground if there is none yet. -/
theorem tints_foreground (h : IsCellColour colour) :
    Tints (colourSequence foregroundCodes 38 colour) none (rgbOf? colour) := by
  refine tints_colourSequence (fun _ hmem => List.mem_append_left backgroundCodes hmem) h
    (fun hnone => hnone.symm) ?_
  intro red hred green hgreen blue hblue hrgb
  rw [foregroundAfter_foreground hred hgreen hblue, hrgb]

/-- The sequence of a background leaves the foreground as it is. -/
theorem tints_background (h : IsCellColour colour) (current : Option Rgb) :
    Tints (colourSequence backgroundCodes 48 colour) current current := by
  refine tints_colourSequence (fun _ hmem => List.mem_append_right foregroundCodes hmem) h
    (fun _ => rfl) ?_
  intro red hred green hgreen blue hblue _
  exact foregroundAfter_background hred hgreen hblue

theorem tints_leave (style : Style) : Tints style.leave (rgbOf? style.fg) none := by
  unfold Style.leave
  split
  · next hplain =>
    rw [hplain]
    exact tints_nil none
  · rw [reset_eq]
    exact tints_selection foregroundPast_reset

end Tints

/-! ## Rows -/

section Rows

variable {cell : Cell} {cells row : List Cell}

theorem Cell.IsColoured.tints_change (h : cell.IsColoured) (current : Style) :
    Tints (current.change cell.style) (rgbOf? current.fg) (rgbOf? cell.style.fg) := by
  have hsequence : Tints cell.style.sequence none (rgbOf? cell.style.fg) :=
    ((tints_attributeSequence cell.style none).append (tints_foreground h.fg)).append
      (tints_background h.bg _)
  unfold Style.change
  split
  · next hsame =>
    rw [hsame]
    exact tints_nil _
  · refine (tints_leave current).append ?_
    split
    · next hplain =>
      rw [hplain]
      exact tints_nil none
    · exact hsequence

theorem tinted_append_of_not_mem {t : Text} (h : esc ∉ t) (current : Option Rgb) (rest : Text) :
    tinted current (Screen.pieces (t ++ rest)) =
      (tinted current (Screen.pieces rest)).map (t.map (·, current) ++ ·) := by
  induction t with
  | nil =>
    rw [List.nil_append]
    cases tinted current (Screen.pieces rest) <;> rfl
  | cons c t ih =>
    rw [List.mem_cons, not_or] at h
    rw [List.cons_append, Screen.pieces_char (Ne.symm h.1), Screen.tinted_char, ih h.2]
    cases tinted current (Screen.pieces rest) <;> rfl

/-- In a painted row every character is found in the foreground of its cell. -/
theorem tinted_paint (current : Style) (h : ∀ cell ∈ cells, cell.IsColoured) :
    tinted (rgbOf? current.fg) (Screen.pieces (paint current cells)) =
      .ok (cells.flatMap Cell.tinted) := by
  induction current, cells using paint_induction with
  | nil current =>
    have hleave := tints_leave current []
    rwa [List.append_nil] at hleave
  | empty current cell rest hdata ih =>
    rw [paint_empty hdata, ih (List.forall_mem_cons.mp h).2, List.flatMap_cons, Cell.tinted, hdata,
      List.map_nil, List.nil_append]
  | shown current cell rest hdata ih =>
    obtain ⟨hcell, hrest⟩ := List.forall_mem_cons.mp h
    rw [paint_shown hdata, hcell.tints_change current, tinted_append_of_not_mem hcell.noEscape,
      ih hrest, List.flatMap_cons]
    rfl

theorem tinted_renderRow (h : ∀ cell ∈ row, cell.IsColoured) :
    tinted none (Screen.pieces (renderRow row)) = .ok ((trimRow row).flatMap Cell.tinted) :=
  tinted_paint {} fun cell hcell => h cell (mem_of_mem_trimRow hcell)

/-- The cells of a row that own its characters tell their foregrounds. -/
theorem exists_owner {place : Nat} {entry : Tinted}
    (h : ((trimRow row).flatMap Cell.tinted)[place]? = some entry) :
    ∃ cell ∈ row, (row.flatMap Cell.owned)[place]? = some (entry.1, cell) ∧
      entry.2 = rgbOf? cell.style.fg := by
  have htinted : (trimRow row).flatMap Cell.tinted = ((trimRow row).flatMap Cell.owned).map
      fun owned => (owned.1, rgbOf? owned.2.style.fg) := by
    rw [List.map_flatMap]
    refine List.flatMap_congr fun cell _ => ?_
    rw [Cell.tinted, Cell.owned, List.map_map]
    rfl
  rw [htinted, List.getElem?_map] at h
  obtain ⟨⟨c, cell⟩, howned, rfl⟩ := Option.map_eq_some_iff.mp h
  have hrow : (row.flatMap Cell.owned)[place]? = some (c, cell) := by
    rw [← trimRow_append row, List.flatMap_append,
      List.getElem?_append_left (List.getElem?_eq_some_iff.mp howned).1, howned]
  have hmem : cell ∈ row := by
    obtain ⟨owner, howner, hcell⟩ := List.mem_flatMap.mp (List.mem_of_getElem? hrow)
    obtain ⟨d, -, hd⟩ := List.mem_map.mp hcell
    rw [← (Prod.mk.inj hd).2]
    exact howner
  exact ⟨cell, hmem, hrow, rfl⟩

end Rows

/-- Looked up in a rendered row, the foreground at a text that the row shows is the colour of the
cell that holds the last character of the first occurrence, if this colour is made of digits, and
none otherwise. There is none at a text that the row does not show. -/
theorem foregroundAt_renderRow (row : List Cell) (h : ∀ cell ∈ row, cell.IsColoured) (needle : Text)
    (hne : needle ≠ []) :
    (¬ needle <:+: Screen.strip (renderRow row) →
      Screen.foregroundAt (renderRow row) needle = .ok none) ∧
    ∀ place, Screen.OccursFirst needle (Screen.strip (renderRow row)) place →
      ∃ cell, (row.flatMap Cell.owned)[place + needle.length - 1]? =
          some (needle.getLast hne, cell) ∧
        (∀ red < 256, ∀ green < 256, ∀ blue < 256, cell.style.fg = hexColour red green blue →
          Screen.foregroundAt (renderRow row) needle = .ok (some ⟨red, green, blue⟩)) ∧
        (¬ IsHexColour cell.style.fg →
          Screen.foregroundAt (renderRow row) needle = .ok none) := by
  have htinted := tinted_renderRow h
  refine ⟨Screen.foregroundAt_of_not_occurs htinted, fun place hplace => ?_⟩
  obtain ⟨entry, hentry, hfound⟩ := Screen.foregroundAt_of_occursFirst htinted hne hplace
  obtain ⟨cell, hcell, howned, hcolour⟩ := exists_owner hentry
  have hlast : entry.1 = needle.getLast hne := by
    have hshown := congrArg (·[place + needle.length - 1]?) (Screen.map_fst_tinted htinted)
    rw [List.getElem?_map, hentry] at hshown
    exact Option.some.inj (hshown.trans (hplace.getElem?_last hne))
  rw [hlast] at howned
  refine ⟨cell, howned, ?_, ?_⟩
  · intro red hred green hgreen blue hblue hfg
    rw [hfound, hcolour, hfg, rgbOf?_hexColour hred hgreen hblue]
  · intro hnot
    rw [hfound, hcolour, rgbOf?_eq_none (h cell hcell).fg hnot]

/-- A row with a foreground of six digits, a named one on a background of six digits under a wide
character, and the foreground of the terminal itself. -/
def tintedRow : List Cell :=
  [⟨['a'], { fg := "ff8000".toList, bold := true }⟩,
    ⟨['漢'], { fg := "brightred".toList, bg := "0000ee".toList }⟩, ⟨[], {}⟩,
    ⟨['b'], { fg := "00cd0f".toList, bg := "0000ee".toList }⟩, ⟨['a'], {}⟩, {}]

theorem foregroundAt_renderRow_tintedRow :
    (∀ cell ∈ tintedRow, cell.IsColoured) ∧ "漢b".toList ≠ [] ∧
      Screen.OccursFirst "漢b".toList (Screen.strip (renderRow tintedRow)) 1 ∧
      ∃ cell, (tintedRow.flatMap Cell.owned)[2]? = some ('b', cell) ∧
        (∀ red < 256, ∀ green < 256, ∀ blue < 256, cell.style.fg = hexColour red green blue →
          Screen.foregroundAt (renderRow tintedRow) "漢b".toList =
            .ok (some ⟨red, green, blue⟩)) ∧
        (¬ IsHexColour cell.style.fg →
          Screen.foregroundAt (renderRow tintedRow) "漢b".toList = .ok none) := by
  have hcoloured : ∀ cell ∈ tintedRow, cell.IsColoured := by decide
  have hplace : Screen.OccursFirst "漢b".toList (Screen.strip (renderRow tintedRow)) 1 := by
    decide
  exact ⟨hcoloured, by decide, hplace,
    (foregroundAt_renderRow tintedRow hcoloured "漢b".toList (by decide)).2 1 hplace⟩

/-- The first occurrence counts, and its last character. -/
example : Screen.foregroundAt (renderRow tintedRow) "a".toList = .ok (some ⟨255, 128, 0⟩) ∧
    Screen.foregroundAt (renderRow tintedRow) "ba".toList = .ok none := by decide

end TermPilot.Emulator
