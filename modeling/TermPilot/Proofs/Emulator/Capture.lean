import TermPilot.Proofs.Emulator.Render

/-!
# The visible text of a captured screen

A screen is captured by rendering it and trimming the dump. What the capture shows is the text of
the screen's cells, row by row, up to blanks at the ends of rows: rendering writes styled lines
only, and from these trimming takes nothing that is visible.
-/

namespace TermPilot.Emulator

open Terminal

/-- The cell can be captured: its characters neither end the line nor start an escape sequence, and
its colours have no minus sign. -/
structure Cell.IsCapturable (cell : Cell) : Prop where
  /-- The cell holds no escape character. -/
  noEscape : esc ∉ cell.data
  /-- The cell holds no line feed. -/
  noFeed : '\n' ∉ cell.data
  /-- The cell holds no carriage return. -/
  noReturn : '\r' ∉ cell.data
  /-- The colours of the cell hold no minus sign. -/
  unsigned : cell.style.IsUnsigned

instance (cell : Cell) : Decidable cell.IsCapturable :=
  decidable_of_iff (esc ∉ cell.data ∧ '\n' ∉ cell.data ∧ '\r' ∉ cell.data ∧ cell.style.IsUnsigned)
    ⟨fun h => ⟨h.1, h.2.1, h.2.2.1, h.2.2.2⟩,
      fun h => ⟨h.noEscape, h.noFeed, h.noReturn, h.unsigned⟩⟩

/-! ## Lines of a rendered screen -/

section Lines

variable {rows : List (List Cell)} (h : ∀ row ∈ rows, ∀ cell ∈ row, cell.IsCapturable)

include h

theorem newline_not_mem_rendered : ∀ line ∈ rows.map renderRow, '\n' ∉ line :=
  not_mem_renderRow (by decide) fun row hrow cell hcell =>
    ⟨(h row hrow cell hcell).noFeed, (h row hrow cell hcell).unsigned⟩

theorem trimmed_rowAt (y : Nat) :
    ∀ cell ∈ trimRow (rowAt rows y), esc ∉ cell.data ∧ cell.style.IsUnsigned := by
  intro cell hcell
  obtain ⟨row, hrow, hmem⟩ := mem_of_mem_rowAt (mem_of_mem_trimRow hcell)
  exact ⟨(h row hrow cell hmem).noEscape, (h row hrow cell hmem).unsigned⟩

/-- The lines of the dump are the rendered rows: none of them ends in a carriage return. -/
theorem getD_lines_render (y : Nat) :
    (TermPilot.Screen.lines (render rows))[y]?.getD [] = renderRow (rowAt rows y) := by
  have hreturn : '\r' ∉ renderRow (rowAt rows y) := by
    refine not_mem_paint (by decide) {} fun cell hcell => ?_
    obtain ⟨row, hrow, hmem⟩ := mem_of_mem_rowAt (mem_of_mem_trimRow hcell)
    exact ⟨(h row hrow cell hmem).noReturn, (h row hrow cell hmem).unsigned⟩
  have hlast : (renderRow (rowAt rows y)).getLast? ≠ some '\r' :=
    fun hsome => hreturn (List.mem_of_getLast? hsome)
  rw [Screen.getD_lines, lineAt_render (newline_not_mem_rendered h), Text.dropLastChar,
    if_neg hlast]

theorem isStyled_lines : ∀ line ∈ TermPilot.Screen.lines (render rows), Screen.IsStyled line := by
  intro line hline
  obtain ⟨y, hy, rfl⟩ := List.getElem_of_mem hline
  have hrendered := getD_lines_render h y
  rw [List.getElem?_eq_getElem hy, Option.getD_some] at hrendered
  rw [hrendered]
  exact isStyled_paint {} (trimmed_rowAt h y)

/-- The lines that trimming keeps are styled as well, so that no string command is open in them. -/
theorem not_endsOpen_keptLines :
    ∀ line ∈ Screen.keptLines (render rows), ¬ Screen.EndsOpen line := by
  intro line hline
  obtain ⟨blank, happend, -⟩ := Screen.exists_keptLines_append (render rows)
  have hmem : line ∈ (TermPilot.Screen.lines (render rows)).map Screen.cleanLine := by
    rw [happend]
    exact List.mem_append_left blank hline
  obtain ⟨whole, hwhole, rfl⟩ := List.mem_map.mp hmem
  exact (isStyled_lines h whole hwhole).cleanLine.not_endsOpen

/-- The cells at the end of a row that show nothing are blank text. -/
theorem trimEnd_row (y : Nat) :
    Text.trimEnd (Screen.strip (renderRow (rowAt rows y))) =
      Text.trimEnd ((rowAt rows y).flatMap Cell.data) := by
  have hblank : Text.isBlankText
      (((rowAt rows y).rtakeWhile Cell.isPlain).flatMap Cell.data) = true := by
    rw [Text.isBlankText, List.all_flatMap, List.all_eq_true]
    intro cell hcell
    rcases (isPlain_iff.mp (List.mem_rtakeWhile_imp hcell)).1 with hdata | hdata
    · rw [hdata]
      decide
    · rw [hdata]
      rfl
  nth_rewrite 2 [← trimRow_append (rowAt rows y)]
  rw [renderRow, strip_paint {} (trimmed_rowAt h y), List.flatMap_append,
    Text.trimEnd_append_of_blank hblank]

end Lines

/-- The visible text of a captured screen is the text of its cells, row by row and up to blanks at
the ends of the rows, and it ends in a line that is not blank, unless it is empty. -/
theorem strip_capture (rows : List (List Cell))
    (h : ∀ row ∈ rows, ∀ cell ∈ row, cell.IsCapturable) :
    (∀ y, Text.trimEnd ((rowAt rows y).flatMap Cell.data) =
        Text.trimEnd (Screen.lineAt (Screen.strip (Screen.cleanTrailing (render rows))) y)) ∧
      (Screen.strip (Screen.cleanTrailing (render rows)) = [] ∨
        ∃ last ∈ (Text.splitOn '\n' (Screen.strip (Screen.cleanTrailing (render rows)))).getLast?,
          ¬ Text.isBlankText last = true) := by
  have hclosed : ∀ line ∈ (Screen.keptLines (render rows)).dropLast, ¬ Screen.EndsOpen line :=
    fun line hline => not_endsOpen_keptLines h line (List.dropLast_subset _ hline)
  constructor
  · intro y
    rw [← trimEnd_row h, ← getD_lines_render h, eq_comm, Screen.trimEnd_lineAt_iff hclosed]
    cases hline : (TermPilot.Screen.lines (render rows))[y]? with
    | none => rfl
    | some line => exact (isStyled_lines h line (List.mem_of_getElem? hline)).isBlankLine_trimmedOff
  · exact Screen.strip_cleanTrailing_last hclosed

theorem strip_capture_sampleRows :
    (∀ row ∈ sampleRows, ∀ cell ∈ row, cell.IsCapturable) ∧
      (∀ y, Text.trimEnd ((rowAt sampleRows y).flatMap Cell.data) = Text.trimEnd
        (Screen.lineAt (Screen.strip (Screen.cleanTrailing (render sampleRows))) y)) ∧
      (Screen.strip (Screen.cleanTrailing (render sampleRows)) = [] ∨
        ∃ last ∈ (Text.splitOn '\n'
            (Screen.strip (Screen.cleanTrailing (render sampleRows)))).getLast?,
          ¬ Text.isBlankText last = true) :=
  ⟨by decide, strip_capture sampleRows (by decide)⟩

/-- Neither styles nor blanks at the end of the screen are left. -/
example : Screen.strip (Screen.cleanTrailing (render sampleRows)) = "漢x".toList := by decide

end TermPilot.Emulator
