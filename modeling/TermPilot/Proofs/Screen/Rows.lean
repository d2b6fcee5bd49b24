import TermPilot.Proofs.Screen.Clean
import TermPilot.Proofs.Screen.Segments
import TermPilot.Proofs.Screen.Separator
import TermPilot.Screen.Colour

/-!
# The rows of a dump and of its visible text

Rows are found in the visible text of a dump and looked up in the dump itself by their number. That
is right for a dump whose escape sequences end on the line that they start on: its lines and those
of its visible text are numbered alike. The dump may have one line more, which shows nothing.
-/

namespace TermPilot.Screen

open Terminal

/-! ## Lines one by one -/

section Lines

variable {part : Text}

theorem join_splitOn (sep : Char) (t : Text) : Text.join [sep] (Text.splitOn sep t) = t := by
  rw [Text.splitOn_eq, Text.join, List.intercalate_splitOn]

theorem dropLastChar_of_not_mem {c : Char} {t : Text} (h : c ∉ t) : Text.dropLastChar c t = t :=
  dropLastChar_eq_self_iff.mpr fun hlast => h (List.mem_of_getLast? hlast)

/-- The line is a text with whole escape sequences and without a carriage return. -/
structure IsRow (line : Text) : Prop where
  /-- Its escape sequences are whole. -/
  whole : IsWhole line
  /-- It has no carriage return. -/
  oneRow : '\r' ∉ line

theorem isRow_nil : IsRow [] := ⟨.nil, List.not_mem_nil⟩

/-- What a line shows does not depend on whether the carriage return at its end is taken away before
or after its escape sequences. -/
theorem strip_dropLastChar (h : IsRow (Text.dropLastChar '\r' part)) :
    strip (Text.dropLastChar '\r' part) = Text.dropLastChar '\r' (strip part) := by
  rcases eq_dropLastChar_append '\r' part with hpart | hpart
  · have hreturn : '\r' ∉ strip part := by
      rw [hpart]
      exact not_mem_strip h.oneRow
    rw [← hpart, dropLastChar_of_not_mem hreturn]
  · have hstrip : strip part = strip (Text.dropLastChar '\r' part) ++ ['\r'] := by
      rw [hpart, h.whole.strip_append, dropLastChar_concat]
      rfl
    rw [hstrip, dropLastChar_concat]

theorem IsRow.isWhole_part (h : IsRow (Text.dropLastChar '\r' part)) : IsWhole part := by
  rcases eq_dropLastChar_append '\r' part with hpart | hpart
  · rw [hpart]
    exact h.whole
  · rw [hpart]
    exact h.whole.append (.char (by decide) .nil)

end Lines

/-! ## All lines -/

section Rows

variable {raw : Text}

/-- The parts of a dump between its line feeds are its lines, apart from an empty part at the end
and from carriage returns. -/
theorem isRow_part (h : ∀ line ∈ lines raw, IsRow line) :
    ∀ part ∈ Text.splitOn '\n' raw, IsRow (Text.dropLastChar '\r' part) := by
  intro part hpart
  unfold lines at h
  simp only [List.forall_mem_map] at h
  split_ifs at h with hlast
  · obtain ⟨init, hinit⟩ := List.getLast?_eq_some_iff.mp hlast
    rw [hinit, List.dropLast_concat] at h
    rw [hinit] at hpart
    rcases List.mem_append.mp hpart with hpart | hpart
    · exact h part hpart
    · rw [List.mem_singleton.mp hpart]
      exact isRow_nil
  · exact h part hpart

/-- The parts of the visible text are what the parts of the dump show. -/
theorem splitOn_strip (h : ∀ line ∈ lines raw, IsRow line) :
    Text.splitOn '\n' (strip raw) = (Text.splitOn '\n' raw).map strip := by
  have hrows := isRow_part h
  have hclosed : ∀ part ∈ (Text.splitOn '\n' raw).dropLast, ¬ EndsOpen part := by
    intro part hpart
    exact (hrows part (List.dropLast_subset _ hpart)).isWhole_part.not_endsOpen
  have hstrip : strip raw = Text.join ['\n'] ((Text.splitOn '\n' raw).map strip) := by
    rw [← strip_join hclosed, join_splitOn]
  have hfeeds : ∀ shown ∈ (Text.splitOn '\n' raw).map strip, '\n' ∉ shown := by
    intro shown hshown
    obtain ⟨part, hpart, rfl⟩ := List.mem_map.mp hshown
    exact not_mem_strip (Text.not_mem_of_mem_splitOn hpart)
  have hne : (Text.splitOn '\n' raw).map strip ≠ [] := by
    simpa using Text.splitOn_ne_nil '\n' raw
  rw [hstrip, Text.splitOn_join hfeeds hne]

/-- The lines of the visible text are what the lines of the dump show, but for one line more at the
end of the dump that shows nothing. -/
theorem map_strip_lines (h : ∀ line ∈ lines raw, IsRow line) :
    (lines raw).map strip = lines (strip raw) ∨
      (lines raw).map strip = lines (strip raw) ++ [[]] := by
  have hrows := isRow_part h
  -- taking carriage returns away and stripping can change places on every part
  have hcommute : ∀ parts : List Text, (∀ part ∈ parts, part ∈ Text.splitOn '\n' raw) →
      (parts.map (Text.dropLastChar '\r')).map strip =
        (parts.map strip).map (Text.dropLastChar '\r') := by
    intro parts hparts
    rw [List.map_map, List.map_map]
    exact List.map_congr_left fun part hpart => strip_dropLastChar (hrows part (hparts part hpart))
  have hlast : (Text.splitOn '\n' (strip raw)).getLast? =
      (Text.splitOn '\n' raw).getLast?.map strip := by
    rw [splitOn_strip h, List.getLast?_map]
  unfold lines
  simp only [hlast]
  rw [splitOn_strip h]
  by_cases hraw : (Text.splitOn '\n' raw).getLast? = some []
  · -- a line feed ends the dump, and so it ends the visible text
    left
    rw [hraw, if_pos rfl, Option.map_some, strip_nil, if_pos rfl, ← List.map_dropLast]
    exact hcommute _ fun part hpart => List.dropLast_subset _ hpart
  · rw [if_neg hraw]
    by_cases hclean : (Text.splitOn '\n' raw).getLast?.map strip = some []
    · -- the last line of the dump is made of escape sequences only
      right
      rw [if_pos hclean, hcommute _ fun part hpart => hpart]
      obtain ⟨init, hinit⟩ := List.getLast?_eq_some_iff.mp (hlast.trans hclean)
      rw [splitOn_strip h] at hinit
      rw [hinit, List.dropLast_concat, List.map_append]
      rfl
    · left
      rw [if_neg hclean]
      exact hcommute _ fun part hpart => hpart

/-- A line of the visible text is what the line of the dump with the same number shows. -/
theorem getElem?_lines_strip (h : ∀ line ∈ lines raw, IsRow line) {i : Nat} {shown : Text}
    (hshown : (lines (strip raw))[i]? = some shown) :
    ∃ line, (lines raw)[i]? = some line ∧ shown = strip line := by
  have hmap : ((lines raw).map strip)[i]? = some shown := by
    rcases map_strip_lines h with hlines | hlines
    · rw [hlines, hshown]
    · rw [hlines, List.getElem?_append_left (List.getElem?_eq_some_iff.mp hshown).1, hshown]
  rw [List.getElem?_map] at hmap
  obtain ⟨line, hline, hstrip⟩ := Option.map_eq_some_iff.mp hmap
  exact ⟨line, hline, hstrip.symm⟩

end Rows

/-! ## Rows of separators -/

section Separators

variable {clean : Text} {row : Nat}

/-- The rows that hold a bar are rows of the text. -/
theorem lt_of_mem_separatorRowsAt {col : Int} (h : row ∈ separatorRowsAt clean col) :
    row < (lines clean).length := by
  unfold separatorRowsAt at h
  split_ifs at h with hcol
  · exact absurd h List.not_mem_nil
  · exact List.mem_range.mp (List.mem_filter.mp h).1

/-- The row of a separator is a row of the text. -/
theorem lt_of_horizontalSeparator? (h : horizontalSeparator? clean = some row) :
    row < (lines clean).length := by
  obtain ⟨best, hbest, hfinds⟩ := exists_finds_horizontalSeparator? clean
  obtain ⟨found, rfl, rfl⟩ := Option.map_eq_some_iff.mp (hbest.symm.trans h)
  exact hfinds.1

end Separators

/-- The row of a dump that has the given number shows the text that this row has in the visible text
of the dump, and its colours are those that are looked up by the number. -/
def SharesRow (raw : Text) (row : Nat) : Prop :=
  ∃ line, (lines raw)[row]? = some line ∧
    (lines (withVisible raw).2)[row]? = some (strip line) ∧
    rowColours raw row = lineColours line

theorem sharesRow {raw : Text} {row : Nat} (h : ∀ line ∈ lines raw, IsRow line)
    (hrow : row < (lines (withVisible raw).2).length) : SharesRow raw row := by
  have hshown := List.getElem?_eq_getElem hrow
  obtain ⟨line, hline, hstrip⟩ := getElem?_lines_strip h hshown
  refine ⟨line, hline, by rw [hshown, hstrip], ?_⟩
  have hfound : row? raw row = some line := by
    rw [row?, if_neg (by omega), Int.toNat_natCast, hline]
  rw [rowColours, hfound]

/-- In a dump whose escape sequences are whole on every line, the lines of the visible text are what
the lines of the dump show, with the same numbers; the dump has at most one line more, which shows
nothing. So a row where a separator is found in the visible text is the row of that text in the
dump, whose colours are looked up there. -/
theorem rows_withVisible {raw : Text} (h : ∀ line ∈ lines raw, IsRow line) :
    (∀ (row : Nat) (shown : Text), (lines (withVisible raw).2)[row]? = some shown →
      ∃ line, (lines raw)[row]? = some line ∧ shown = strip line) ∧
    (lines raw).length ≤ (lines (withVisible raw).2).length + 1 ∧
    (∀ line ∈ (lines raw).drop (lines (withVisible raw).2).length, strip line = []) ∧
    (∀ col, ∀ row ∈ separatorRowsAt (withVisible raw).2 col, SharesRow raw row) ∧
    ∀ row, horizontalSeparator? (withVisible raw).2 = some row → SharesRow raw row := by
  have hmap := map_strip_lines h
  refine ⟨fun row shown => getElem?_lines_strip h, ?_, ?_, ?_, ?_⟩
  · have hlength : (lines raw).length = ((lines raw).map strip).length := by simp
    rw [hlength]
    rcases hmap with hlines | hlines
    · rw [hlines]
      exact Nat.le_succ _
    · rw [hlines, List.length_append]
      exact Nat.le_refl _
  · intro line hline
    have hshown : strip line ∈ ((lines raw).map strip).drop (lines (strip raw)).length := by
      rw [← List.map_drop]
      exact List.mem_map_of_mem hline
    rcases hmap with hlines | hlines
    · rw [hlines, List.drop_length] at hshown
      exact absurd hshown List.not_mem_nil
    · rw [hlines, List.drop_left] at hshown
      exact List.mem_singleton.mp hshown
  · intro col row hrow
    exact sharesRow h (lt_of_mem_separatorRowsAt hrow)
  · intro row hrow
    exact sharesRow h (lt_of_horizontalSeparator? hrow)

/-- A bold text with a carriage return, a link next to a vertical bar, and a line that shows
nothing. -/
def sampleDump : Text :=
  "\x1b[1mab\x1b[0m\r\n│\x1b]8;;u\x1b\\go\x1b]8;;\x07\n\x1b(B".toList

theorem isRow_sampleDump : ∀ line ∈ lines sampleDump, IsRow line := by
  have hlines : lines sampleDump = ["\x1b[1mab\x1b[0m".toList,
      "│\x1b]8;;u\x1b\\go\x1b]8;;\x07".toList, "\x1b(B".toList] := by decide
  have hbold : IsSequence "[1m".toList :=
    @IsSequence.control "1".toList [] 'm' (List.all_eq_true.mp rfl) (by simp) rfl
  have hplain : IsSequence "[0m".toList :=
    @IsSequence.control "0".toList [] 'm' (List.all_eq_true.mp rfl) (by simp) rfl
  have hlink : IsSequence "]8;;u\x1b\\".toList :=
    @IsSequence.command "8;;u".toList stringEnd (List.all_eq_true.mp rfl) (Or.inr rfl)
  have hend : IsSequence "]8;;\x07".toList :=
    @IsSequence.command "8;;".toList ['\x07'] (List.all_eq_true.mp rfl) (Or.inl rfl)
  have hset : IsSequence "(B".toList :=
    @IsSequence.short ['('] 'B' (List.all_eq_true.mp rfl) rfl (by simp)
  have hab : IsWhole "ab".toList := isWhole_of_not_mem (by decide)
  have hgo : IsWhole "go".toList := isWhole_of_not_mem (by decide)
  rw [hlines]
  simp only [List.forall_mem_cons, List.not_mem_nil, false_imp_iff, implies_true, and_true]
  refine ⟨⟨.sequence hbold (hab.append (.sequence hplain .nil)), by decide⟩,
    ⟨.char (by decide) (.sequence hlink (hgo.append (.sequence hend .nil))), by decide⟩,
    ⟨.sequence hset .nil, by decide⟩⟩

theorem rows_withVisible_sampleDump :
    (∀ line ∈ lines sampleDump, IsRow line) ∧
    (∀ (row : Nat) (shown : Text), (lines (withVisible sampleDump).2)[row]? = some shown →
      ∃ line, (lines sampleDump)[row]? = some line ∧ shown = strip line) ∧
    (lines sampleDump).length ≤ (lines (withVisible sampleDump).2).length + 1 ∧
    (∀ line ∈ (lines sampleDump).drop (lines (withVisible sampleDump).2).length,
      strip line = []) ∧
    (∀ col, ∀ row ∈ separatorRowsAt (withVisible sampleDump).2 col, SharesRow sampleDump row) ∧
    ∀ row, horizontalSeparator? (withVisible sampleDump).2 = some row →
      SharesRow sampleDump row :=
  ⟨isRow_sampleDump, rows_withVisible isRow_sampleDump⟩

end TermPilot.Screen
