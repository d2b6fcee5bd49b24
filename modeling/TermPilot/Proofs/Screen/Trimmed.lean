import TermPilot.Proofs.Screen.Clean
import TermPilot.Proofs.Screen.Cut

/-!
# Trimming a trimmed dump

A trimmed line is its own trimmed line, and so is what is left of it without a carriage return at its
end. So a second trimming finds the lines that the first one has kept, and of each of them it takes
one carriage return off the end, for that now counts as part of a line end. Nothing else changes.
-/

namespace TermPilot.Screen

open Terminal

/-! ## Trimmed lines -/

section Line

variable {line : Text} {cut : List Token}

theorem cleanLine_flatMap_raw (h : IsCut cut)
    (hlast : ∀ token ∈ cut.getLast?, token.isVisible = true) :
    cleanLine (cut.flatMap Token.raw) = cut.flatMap Token.raw := by
  have hkept : (cut.rdropWhile fun token => !token.isVisible) = cut := by
    refine List.rdropWhile_eq_self_iff.mpr fun hne => ?_
    rw [hlast _ (List.getLast?_eq_getLast_of_ne_nil hne)]
    decide
  rw [cleanLine_eq, h.tokens_flatMap_raw, hkept]

/-- A trimmed line is made of tokens of which the last is visible. -/
theorem exists_cut_of_cleanLine (line : Text) :
    ∃ cut, IsCut cut ∧ (∀ token ∈ cut.getLast?, token.isVisible = true) ∧
      cleanLine line = cut.flatMap Token.raw := by
  obtain ⟨dropped, hdropped⟩ := List.rdropWhile_prefix (fun token => !token.isVisible) (tokens line)
  have hcut := isCut_tokens line
  rw [← hdropped] at hcut
  exact ⟨_, hcut.of_append, fun token htoken => isVisible_of_mem_getLast? htoken,
    cleanLine_eq line⟩

theorem cleanLine_cleanLine (line : Text) : cleanLine (cleanLine line) = cleanLine line := by
  obtain ⟨cut, hcut, hlast, hline⟩ := exists_cut_of_cleanLine line
  rw [hline, cleanLine_flatMap_raw hcut hlast]

/-- A trimmed line is still trimmed without the carriage return at its end. -/
theorem cleanLine_dropLastChar (h : cleanLine line = line) :
    cleanLine (Text.dropLastChar '\r' line) = Text.dropLastChar '\r' line := by
  rcases eq_dropLastChar_append '\r' line with hsame | hline
  · rw [← hsame, h]
  generalize Text.dropLastChar '\r' line = front at hline ⊢
  obtain ⟨cut, hcut, hlast, hraw⟩ := exists_cut_of_cleanLine line
  rw [h, hline] at hraw
  rcases List.eq_nil_or_concat' cut with rfl | ⟨init, token, rfl⟩
  · simp at hraw
  have hvisible : token.isVisible = true := hlast token (by simp)
  obtain ⟨t, rfl⟩ := Token.isText_of_isVisible hvisible
  rcases List.eq_nil_or_concat' t with rfl | ⟨s, c, rfl⟩
  · exact absurd hvisible (by decide)
  have hends : front ++ ['\r'] = (init.flatMap Token.raw ++ s) ++ [c] := by
    simpa [Token.raw] using hraw
  obtain ⟨rfl, hc⟩ := List.append_inj' hends rfl
  obtain rfl : '\r' = c := List.head_eq_of_cons_eq hc
  -- the carriage return is blank, so what stands in front of it is visible by itself
  have hs : (Token.text s).isVisible = true := by
    have hblank : Text.isBlankText ['\r'] = true := by decide
    simpa [Token.isVisible, Token.shown, Text.isBlankText_append, hblank] using hvisible
  have hne : s ≠ [] := by
    rintro rfl
    exact absurd hs (by decide)
  have hshorter : IsCut (init ++ [.text s]) := hcut.concat_text hne (List.prefix_append s _)
  have hfront : init.flatMap Token.raw ++ s = (init ++ [Token.text s]).flatMap Token.raw := by
    simp [Token.raw]
  rw [hfront]
  exact cleanLine_flatMap_raw hshorter (by simpa using hs)

theorem isBlankLine_dropLastChar (line : Text) :
    isBlankLine (Text.dropLastChar '\r' line) = isBlankLine line := by
  rcases eq_dropLastChar_append '\r' line with hsame | hline
  · rw [← hsame]
  have hanew : StartsAnew ['\r'] := fun c hc => Or.inr (Or.inl (Option.mem_some_iff.mp hc).symm)
  obtain ⟨n, hstrip, -⟩ := strip_append hanew (Text.dropLastChar '\r' line)
  -- the carriage return is shown as it is, or a string command takes it
  have hblank : Text.isBlankText (strip (['\r'].drop n)) = true := by
    cases n with
    | zero => decide
    | succ n => rw [List.drop_succ_cons, List.drop_nil]; rfl
  rw [← hline] at hstrip
  rw [isBlankLine, isBlankLine, hstrip, Text.isBlankText_append, hblank, Bool.and_true]

end Line

/-! ## Trimmed dumps -/

section Dump

variable {raw line : Text} {parts : List Text}

theorem lines_join (hfeeds : ∀ part ∈ parts, '\n' ∉ part) (hlast : parts.getLast? ≠ some []) :
    lines (Text.join ['\n'] parts) = parts.map (Text.dropLastChar '\r') := by
  cases parts with
  | nil => rfl
  | cons first rest =>
    rw [lines, Text.splitOn_join hfeeds (List.cons_ne_nil first rest), if_neg hlast]

theorem cleanLine_of_mem_keptLines (h : line ∈ keptLines raw) : cleanLine line = line := by
  obtain ⟨whole, -, rfl⟩ := exists_line_of_mem_keptLines h
  exact cleanLine_cleanLine whole

/-- A second trimming keeps every line that the first one has kept, but for a carriage return at its
end. -/
theorem keptLines_cleanTrailing (raw : Text) :
    keptLines (cleanTrailing raw) = (keptLines raw).map (Text.dropLastChar '\r') := by
  obtain ⟨blank, -, -, hlast⟩ := exists_keptLines_append raw
  have hnonempty : (keptLines raw).getLast? ≠ some [] := fun hnil => hlast [] hnil rfl
  have hlines : (lines (cleanTrailing raw)).map cleanLine =
      (keptLines raw).map (Text.dropLastChar '\r') := by
    rw [cleanTrailing_eq, lines_join (fun _ => newline_not_mem_keptLines) hnonempty, List.map_map]
    exact List.map_congr_left fun line hline =>
      cleanLine_dropLastChar (cleanLine_of_mem_keptLines hline)
  have hkept : ((keptLines raw).map (Text.dropLastChar '\r')).rdropWhile isBlankLine =
      (keptLines raw).map (Text.dropLastChar '\r') := by
    refine List.rdropWhile_eq_self_iff.mpr fun hne => ?_
    have hkept : keptLines raw ≠ [] := by simpa using hne
    rw [List.getLast_map, isBlankLine_dropLastChar]
    exact hlast _ (List.getLast?_eq_getLast_of_ne_nil hkept)
  rw [← hkept, ← hlines]
  rfl

/-- A second trimming takes one carriage return off the end of every line that the first one has
kept, and nothing else. So trimming again changes nothing exactly if no kept line ends in a carriage
return. -/
theorem cleanTrailing_cleanTrailing (raw : Text) :
    cleanTrailing (cleanTrailing raw) =
        Text.join ['\n'] ((keptLines raw).map (Text.dropLastChar '\r')) ∧
      (cleanTrailing (cleanTrailing raw) = cleanTrailing raw ↔
        ∀ line ∈ keptLines raw, line.getLast? ≠ some '\r') := by
  have hagain : cleanTrailing (cleanTrailing raw) =
      Text.join ['\n'] ((keptLines raw).map (Text.dropLastChar '\r')) := by
    rw [cleanTrailing_eq (cleanTrailing raw), keptLines_cleanTrailing]
  refine ⟨hagain, ?_⟩
  have hfeeds : ∀ part ∈ keptLines raw, '\n' ∉ part := fun _ => newline_not_mem_keptLines
  have hshorter : ∀ part ∈ (keptLines raw).map (Text.dropLastChar '\r'), '\n' ∉ part := by
    simp only [List.forall_mem_map]
    exact fun line hline hfeed =>
      hfeeds line hline ((dropLastChar_isPrefix '\r' line).subset hfeed)
  rw [hagain, cleanTrailing_eq, Text.join_inj hshorter hfeeds (by rw [List.length_map])]
  nth_rewrite 2 [← List.map_id (keptLines raw)]
  rw [List.map_inj_left]
  exact forall₂_congr fun line _ => dropLastChar_eq_self_iff

/-- Trimming lays a carriage return bare at the end of a line, and a second trimming takes it. -/
theorem cleanTrailing_not_idempotent :
    ¬ ∀ raw, cleanTrailing (cleanTrailing raw) = cleanTrailing raw := by
  intro h
  have hagain := h "a\r\x1b[m\nb".toList
  revert hagain
  decide

end Dump

end TermPilot.Screen
