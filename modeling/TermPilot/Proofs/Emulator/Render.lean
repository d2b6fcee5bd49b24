import TermPilot.Proofs.Emulator.Reader
import TermPilot.Proofs.Screen.Clean

/-!
# Reading rendered screens

A rendered screen is read back cell by cell: each character in the style of its cell. The invariant
of the rendering of a row is that the style that the renderer takes for the current one is the style
that a reader of the row has come to.
-/

namespace TermPilot.Emulator

open Terminal

/-! ## Cells of a row -/

/-- The characters of a cell, each in the style of the cell. -/
def Cell.styled (cell : Cell) : List (Char × Style) := cell.data.map (·, cell.style)

/-- The cell can be rendered and read back: its characters do not end the line or start an escape
sequence, and its style can be selected. -/
structure Cell.IsReadable (cell : Cell) : Prop where
  /-- The cell holds no escape character. -/
  noEscape : esc ∉ cell.data
  /-- The cell holds no line feed. -/
  noFeed : '\n' ∉ cell.data
  /-- A program can select the style of the cell. -/
  selectable : cell.style.IsSelectable

/-- The row of a screen, empty below the last one. -/
def rowAt (rows : List (List Cell)) (y : Nat) : List Cell := (rows[y]?).getD []

instance (cell : Cell) : Decidable cell.IsReadable :=
  decidable_of_iff (esc ∉ cell.data ∧ '\n' ∉ cell.data ∧ cell.style.IsSelectable)
    ⟨fun h => ⟨h.1, h.2.1, h.2.2⟩, fun h => ⟨h.noEscape, h.noFeed, h.selectable⟩⟩

theorem mem_of_mem_rowAt {rows : List (List Cell)} {y : Nat} {cell : Cell}
    (h : cell ∈ rowAt rows y) : ∃ row ∈ rows, cell ∈ row := by
  unfold rowAt at h
  cases hrow : rows[y]? with
  | none =>
    rw [hrow] at h
    exact absurd h List.not_mem_nil
  | some row =>
    rw [hrow] at h
    exact ⟨row, List.mem_of_getElem? hrow, h⟩

/-- A row is what is rendered of it and the cells at its end that show nothing. -/
theorem trimRow_append (row : List Cell) :
    trimRow row ++ row.rtakeWhile Cell.isPlain = row := List.rdropWhile_append_rtakeWhile

theorem mem_of_mem_trimRow {row : List Cell} {cell : Cell} (h : cell ∈ trimRow row) :
    cell ∈ row := (List.rdropWhile_prefix Cell.isPlain row).subset h

theorem isPlain_iff {cell : Cell} :
    cell.isPlain = true ↔ (cell.data = [' '] ∨ cell.data = []) ∧ cell.style = {} := by
  unfold Cell.isPlain
  rw [Bool.and_eq_true, Bool.or_eq_true, decide_eq_true_iff, decide_eq_true_iff, List.isEmpty_iff]

/-! ## Rows -/

/-- What stands between a character in one style and the next one in another style. -/
def Style.change (first last : Style) : Text :=
  if last = first then [] else first.leave ++ if last = {} then [] else last.sequence

section Change

variable {style : Style}

theorem Style.IsUnsigned.isSelection_change (h : style.IsUnsigned) (first : Style) :
    IsSelection (first.change style) := by
  unfold Style.change
  split
  · exact isSelection_nil
  · split
    · exact (isSelection_leave first).append isSelection_nil
    · exact (isSelection_leave first).append h.isSelection_sequence

theorem Style.IsSelectable.leads_change (h : style.IsSelectable) (first : Style) :
    Leads (first.change style) first style := by
  unfold Style.change
  split
  · next hsame => rw [hsame]; exact leads_nil first
  · split
    · next hplain => rw [hplain]; exact (leads_leave first).append (leads_nil {})
    · exact (leads_leave first).append h.leads_sequence

end Change

section Paint

variable {cell : Cell} {cells : List Cell}

theorem paint_empty (h : cell.data = []) (current : Style) (rest : List Cell) :
    paint current (cell :: rest) = paint current rest := by
  rw [paint, if_pos (by simp [h])]

theorem paint_shown (h : cell.data ≠ []) (current : Style) (rest : List Cell) :
    paint current (cell :: rest) =
      current.change cell.style ++ (cell.data ++ paint cell.style rest) := by
  rw [paint, if_neg (by simpa using h), Style.change]
  by_cases hsame : cell.style = current
  · rw [if_pos hsame, if_pos hsame, hsame, List.nil_append]
  · rw [if_neg hsame, if_neg hsame, ← List.append_assoc]

/-- What holds of an empty row, and of every row as soon as it holds of the cells after the first
with the style that is then the current one, holds of all rows. -/
@[elab_as_elim]
theorem paint_induction {motive : Style → List Cell → Prop} (nil : ∀ current, motive current [])
    (empty : ∀ current cell rest, cell.data = [] → motive current rest →
      motive current (cell :: rest))
    (shown : ∀ current cell rest, cell.data ≠ [] → motive cell.style rest →
      motive current (cell :: rest)) (current : Style) (cells : List Cell) :
    motive current cells := by
  induction cells generalizing current with
  | nil => exact nil current
  | cons cell rest ih =>
    by_cases hdata : cell.data = []
    · exact empty current cell rest hdata (ih current)
    · exact shown current cell rest hdata (ih cell.style)

theorem isStyled_paint (current : Style)
    (h : ∀ cell ∈ cells, esc ∉ cell.data ∧ cell.style.IsUnsigned) :
    Screen.IsStyled (paint current cells) := by
  induction current, cells using paint_induction with
  | nil current => exact (isSelection_leave current).isStyled
  | empty current cell rest hdata ih =>
    rw [paint_empty hdata]
    exact ih (List.forall_mem_cons.mp h).2
  | shown current cell rest hdata ih =>
    obtain ⟨⟨hesc, hstyle⟩, hrest⟩ := List.forall_mem_cons.mp h
    rw [paint_shown hdata]
    exact (hstyle.isSelection_change current).isStyled.append
      ((Screen.isStyled_of_not_mem hesc).append (ih hrest))

/-- A painted row shows the characters of its cells. -/
theorem strip_paint (current : Style)
    (h : ∀ cell ∈ cells, esc ∉ cell.data ∧ cell.style.IsUnsigned) :
    Screen.strip (paint current cells) = cells.flatMap Cell.data := by
  induction current, cells using paint_induction with
  | nil current =>
    have hleave := (isSelection_leave current).strip_append []
    rwa [List.append_nil] at hleave
  | empty current cell rest hdata ih =>
    rw [paint_empty hdata, ih (List.forall_mem_cons.mp h).2, List.flatMap_cons, hdata,
      List.nil_append]
  | shown current cell rest hdata ih =>
    obtain ⟨⟨hesc, hstyle⟩, hrest⟩ := List.forall_mem_cons.mp h
    rw [paint_shown hdata, (hstyle.isSelection_change current).strip_append,
      Screen.strip_append_of_not_mem hesc, ih hrest, List.flatMap_cons]

theorem not_mem_paint {c : Char} (hc : c.toNat < 0x1B) (current : Style)
    (h : ∀ cell ∈ cells, c ∉ cell.data ∧ cell.style.IsUnsigned) : c ∉ paint current cells := by
  induction current, cells using paint_induction with
  | nil current => exact (isSelection_leave current).not_mem hc
  | empty current cell rest hdata ih =>
    rw [paint_empty hdata]
    exact ih (List.forall_mem_cons.mp h).2
  | shown current cell rest hdata ih =>
    obtain ⟨⟨hmem, hstyle⟩, hrest⟩ := List.forall_mem_cons.mp h
    rw [paint_shown hdata, List.mem_append, List.mem_append, not_or, not_or]
    exact ⟨(hstyle.isSelection_change current).not_mem hc, hmem, ih hrest⟩

/-- A reader in the style that the renderer takes for the current one reads every cell in its own
style, and is in the style of the terminal itself at the end of the row. -/
theorem readStyled_paint (current : Style)
    (h : ∀ cell ∈ cells, esc ∉ cell.data ∧ cell.style.IsSelectable) :
    readStyled current (paint current cells) = (cells.flatMap Cell.styled, {}) := by
  induction current, cells using paint_induction with
  | nil current =>
    have hleave := leads_leave current []
    rwa [List.append_nil] at hleave
  | empty current cell rest hdata ih =>
    rw [paint_empty hdata, ih (List.forall_mem_cons.mp h).2, List.flatMap_cons, Cell.styled, hdata,
      List.map_nil, List.nil_append]
  | shown current cell rest hdata ih =>
    obtain ⟨⟨hesc, hstyle⟩, hrest⟩ := List.forall_mem_cons.mp h
    rw [paint_shown hdata, hstyle.leads_change current, readStyled_append_of_not_mem hesc,
      ih hrest, List.flatMap_cons]
    rfl

end Paint

/-! ## Screens -/

section Screens

variable {rows : List (List Cell)}

theorem not_mem_renderRow {c : Char} (hc : c.toNat < 0x1B)
    (h : ∀ row ∈ rows, ∀ cell ∈ row, c ∉ cell.data ∧ cell.style.IsUnsigned) :
    ∀ line ∈ rows.map renderRow, c ∉ line := by
  intro line hline
  obtain ⟨row, hrow, rfl⟩ := List.mem_map.mp hline
  exact not_mem_paint hc {} fun cell hcell => h row hrow cell (mem_of_mem_trimRow hcell)

/-- The lines of a rendered screen are its rendered rows. -/
theorem lineAt_render (h : ∀ line ∈ rows.map renderRow, '\n' ∉ line) (y : Nat) :
    Screen.lineAt (render rows) y = renderRow (rowAt rows y) := by
  rw [render, Screen.lineAt_join h, List.getElem?_map, rowAt]
  cases rows[y]? <;> rfl

end Screens

/-- What a reader makes of a rendered screen. There is one line for each row; in it the characters
of the cells are read each in the style of its cell, up to cells at the end of the row that are
blank or empty in the style of the terminal itself, and the reader ends in that style. -/
theorem readStyled_render (rows : List (List Cell))
    (h : ∀ row ∈ rows, ∀ cell ∈ row, cell.IsReadable) :
    (Text.splitOn '\n' (render rows)).length = max rows.length 1 ∧
      ∀ y, ∃ shown omitted, rowAt rows y = shown ++ omitted ∧
        (∀ cell ∈ omitted, (cell.data = [' '] ∨ cell.data = []) ∧ cell.style = {}) ∧
        readStyled {} (Screen.lineAt (render rows) y) = (shown.flatMap Cell.styled, {}) := by
  have hfeeds : ∀ line ∈ rows.map renderRow, '\n' ∉ line :=
    not_mem_renderRow (by decide) fun row hrow cell hcell =>
      ⟨(h row hrow cell hcell).noFeed, (h row hrow cell hcell).selectable.isUnsigned⟩
  constructor
  · by_cases hne : rows = []
    · subst hne
      rfl
    · have hlines : rows.map renderRow ≠ [] := by simpa using hne
      have hpositive := List.length_pos_iff.mpr hne
      rw [render, Text.splitOn_join hfeeds hlines, List.length_map]
      omega
  · intro y
    refine ⟨trimRow (rowAt rows y), (rowAt rows y).rtakeWhile Cell.isPlain,
      (trimRow_append _).symm, ?_, ?_⟩
    · intro cell hcell
      exact isPlain_iff.mp (List.mem_rtakeWhile_imp hcell)
    · have hcells : ∀ cell ∈ trimRow (rowAt rows y),
          esc ∉ cell.data ∧ cell.style.IsSelectable := by
        intro cell hcell
        obtain ⟨row, hrow, hmem⟩ := mem_of_mem_rowAt (mem_of_mem_trimRow hcell)
        exact ⟨(h row hrow cell hmem).noEscape, (h row hrow cell hmem).selectable⟩
      rw [lineAt_render hfeeds, renderRow, readStyled_paint {} hcells]

/-- A wide character, a bold red letter, a blank on a blue ground, and plain blanks. -/
def sampleRows : List (List Cell) :=
  [[⟨['漢'], {}⟩, ⟨[], {}⟩, ⟨['x'], { fg := "red".toList, bold := true }⟩,
    ⟨[' '], { bg := "0000ee".toList }⟩, {}], [{}, {}]]

theorem readStyled_render_sampleRows :
    (∀ row ∈ sampleRows, ∀ cell ∈ row, cell.IsReadable) ∧
      (Text.splitOn '\n' (render sampleRows)).length = max sampleRows.length 1 ∧
      ∀ y, ∃ shown omitted, rowAt sampleRows y = shown ++ omitted ∧
        (∀ cell ∈ omitted, (cell.data = [' '] ∨ cell.data = []) ∧ cell.style = {}) ∧
        readStyled {} (Screen.lineAt (render sampleRows) y) = (shown.flatMap Cell.styled, {}) :=
  ⟨by decide, readStyled_render sampleRows (by decide)⟩

end TermPilot.Emulator
