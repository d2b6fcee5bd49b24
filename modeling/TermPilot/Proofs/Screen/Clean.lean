import TermPilot.Proofs.Screen.Pieces
import TermPilot.Proofs.Screen.Tokens
import TermPilot.Proofs.Text.Parts

/-!
# What trimming a dump keeps

A trimmed dump shows line by line what the dump shows, up to blanks at the ends of lines, under two
conditions: what is trimmed off a line shows nothing but blanks, and no line that is kept in front
of another ends inside a string command, which would take the line feed after it.
-/

namespace TermPilot.Screen

open Terminal

/-! ## Lines of a dump -/

/-- The line of a text, empty beyond its end. -/
def lineAt (t : Text) (i : Nat) : Text := ((Text.splitOn '\n' t)[i]?).getD []

/-- The lines of a trimmed dump. -/
def keptLines (raw : Text) : List Text :=
  (((lines raw).map cleanLine).reverse.dropWhile isBlankLine).reverse

section Lines

variable {raw line : Text} {parts : List Text}

theorem cleanTrailing_eq (raw : Text) : cleanTrailing raw = Text.join ['\n'] (keptLines raw) := rfl

theorem dropLastChar_isPrefix (c : Char) (t : Text) : Text.dropLastChar c t <+: t := by
  unfold Text.dropLastChar
  split_ifs
  · exact List.dropLast_prefix t
  · exact List.prefix_rfl

/-- A line is the same text as before up to the carriage return at its end. -/
theorem eq_dropLastChar_append (c : Char) (t : Text) :
    t = Text.dropLastChar c t ∨ t = Text.dropLastChar c t ++ [c] := by
  unfold Text.dropLastChar
  split_ifs with hlast
  · obtain ⟨init, rfl⟩ := List.getLast?_eq_some_iff.mp hlast
    exact Or.inr (by rw [List.dropLast_concat])
  · exact Or.inl rfl

theorem dropLastChar_concat (c : Char) (t : Text) : Text.dropLastChar c (t ++ [c]) = t := by
  rw [Text.dropLastChar, List.getLast?_concat, if_pos rfl, List.dropLast_concat]

theorem dropLastChar_eq_self_iff {c : Char} {t : Text} :
    Text.dropLastChar c t = t ↔ t.getLast? ≠ some c := by
  constructor
  · intro hsame hlast
    obtain ⟨init, rfl⟩ := List.getLast?_eq_some_iff.mp hlast
    rw [dropLastChar_concat] at hsame
    exact absurd (congrArg List.length hsame) (by simp)
  · exact fun hlast => if_neg hlast

/-- The lines of a dump are the parts between line feeds, but for an empty one at the end. -/
theorem getD_lines (raw : Text) (i : Nat) :
    ((lines raw)[i]?).getD [] = Text.dropLastChar '\r' (lineAt raw i) := by
  unfold lines lineAt
  simp only [List.getElem?_map]
  have hnil : Text.dropLastChar '\r' [] = [] := rfl
  generalize Text.splitOn '\n' raw = parts
  split_ifs with hlast
  · obtain ⟨init, rfl⟩ := List.getLast?_eq_some_iff.mp hlast
    rw [List.dropLast_concat]
    by_cases hi : i < init.length
    · rw [List.getElem?_append_left hi]
      cases init[i]? <;> rfl
    · rw [List.getElem?_eq_none (Nat.le_of_not_lt hi), List.getElem?_append_right
        (Nat.le_of_not_lt hi)]
      cases i - init.length <;> rfl
  · cases parts[i]? <;> rfl

theorem newline_not_mem_lines (h : line ∈ lines raw) : '\n' ∉ line := by
  unfold lines at h
  obtain ⟨part, hpart, rfl⟩ := List.mem_map.mp h
  have hmem : part ∈ Text.splitOn '\n' raw := by
    split_ifs at hpart
    · exact List.dropLast_subset _ hpart
    · exact hpart
  exact fun hfeed => Text.not_mem_of_mem_splitOn hmem ((dropLastChar_isPrefix _ _).subset hfeed)

/-- The trimmed lines are those that are kept and blank ones. -/
theorem exists_keptLines_append (raw : Text) :
    ∃ blank, (lines raw).map cleanLine = keptLines raw ++ blank ∧
      (∀ line ∈ blank, isBlankLine line = true) ∧
      ∀ line ∈ (keptLines raw).getLast?, ¬ isBlankLine line = true := by
  refine ⟨((lines raw).map cleanLine).rtakeWhile isBlankLine,
    List.rdropWhile_append_rtakeWhile.symm, fun line hline => List.mem_rtakeWhile_imp hline,
    fun line hline => Text.not_of_mem_getLast?_rdropWhile hline⟩

theorem exists_line_of_mem_keptLines (h : line ∈ keptLines raw) :
    ∃ whole ∈ lines raw, cleanLine whole = line :=
  List.mem_map.mp ((List.rdropWhile_prefix isBlankLine _).subset h)

theorem newline_not_mem_keptLines (h : line ∈ keptLines raw) : '\n' ∉ line := by
  obtain ⟨whole, hwhole, rfl⟩ := exists_line_of_mem_keptLines h
  exact fun hfeed => newline_not_mem_lines hwhole ((cleanLine_isPrefix whole).subset hfeed)

/-- The lines of joined lines are these lines. -/
theorem lineAt_join (h : ∀ part ∈ parts, '\n' ∉ part) (i : Nat) :
    lineAt (Text.join ['\n'] parts) i = (parts[i]?).getD [] := by
  unfold lineAt
  by_cases hne : parts = []
  · subst hne
    cases i <;> rfl
  · rw [Text.splitOn_join h hne]

theorem lineAt_eq_nil {t : Text} {i : Nat} (h : t.count '\n' < i) : lineAt t i = [] := by
  unfold lineAt
  rw [List.getElem?_eq_none]
  · rfl
  · rw [Text.length_splitOn]
    exact h

theorem count_newline_join (h : ∀ part ∈ parts, '\n' ∉ part) (hne : parts ≠ []) :
    (Text.join ['\n'] parts).count '\n' + 1 = parts.length := by
  rw [← Text.length_splitOn, Text.splitOn_join h hne]

end Lines

/-! ## What joined lines show -/

section Join

theorem startsAnew_newline (t : Text) : StartsAnew ('\n' :: t) := by
  intro c hc
  exact Or.inl (Option.mem_some_iff.mp hc).symm

theorem strip_newline (t : Text) : strip ('\n' :: t) = '\n' :: strip t := strip_char (by decide)

theorem join_cons_newline (first second : Text) (rest : List Text) :
    Text.join ['\n'] (first :: second :: rest) =
      first ++ '\n' :: Text.join ['\n'] (second :: rest) := by
  rw [Text.join_cons_cons, List.append_assoc, List.singleton_append]

/-- Lines show together what they show one by one if no string command crosses a line feed. -/
theorem strip_join {parts : List Text} (h : ∀ line ∈ parts.dropLast, ¬ EndsOpen line) :
    strip (Text.join ['\n'] parts) = Text.join ['\n'] (parts.map strip) := by
  induction parts with
  | nil => rfl
  | cons first rest ih =>
    cases rest with
    | nil => simp [Text.join]
    | cons second rest =>
      rw [List.dropLast_cons_cons, List.forall_mem_cons] at h
      rw [join_cons_newline, strip_append_of_not_endsOpen (startsAnew_newline _) h.1,
        strip_newline, ih h.2]
      exact (join_cons_newline _ _ _).symm

/-- A string command that crosses a line feed takes it. -/
theorem count_newline_strip_join_of_endsOpen {parts : List Text}
    (hfeeds : ∀ part ∈ parts, '\n' ∉ part) (h : ∃ line ∈ parts.dropLast, EndsOpen line) :
    (strip (Text.join ['\n'] parts)).count '\n' + 1 < parts.length := by
  induction parts with
  | nil =>
    obtain ⟨line, hline, -⟩ := h
    cases hline
  | cons first rest ih =>
    cases rest with
    | nil =>
      obtain ⟨line, hline, -⟩ := h
      cases hline
    | cons second rest =>
      rw [List.forall_mem_cons] at hfeeds
      have hfirst : (strip first).count '\n' = 0 :=
        List.count_eq_zero_of_not_mem (not_mem_strip hfeeds.1)
      rw [join_cons_newline]
      by_cases hopen : EndsOpen first
      · obtain ⟨n, hstrip, -, htaken, -⟩ :=
          strip_append (startsAnew_newline (Text.join ['\n'] (second :: rest))) first
        obtain ⟨m, rfl⟩ := Nat.exists_eq_add_of_le (htaken hopen rfl)
        have hcount := count_newline_join hfeeds.2 (List.cons_ne_nil second rest)
        have hsub : (strip ((Text.join ['\n'] (second :: rest)).drop m)).Sublist
            (Text.join ['\n'] (second :: rest)) :=
          (strip_sublist _).trans (List.drop_sublist m _)
        have hle := hsub.count_le '\n'
        rw [hstrip, Nat.add_comm 1 m, List.drop_succ_cons, List.count_append, hfirst,
          List.length_cons]
        omega
      · have hlater : ∃ line ∈ (second :: rest).dropLast, EndsOpen line := by
          rw [List.dropLast_cons_cons] at h
          obtain ⟨line, hline, hends⟩ := h
          rcases List.mem_cons.mp hline with rfl | hline
          · exact absurd hends hopen
          · exact ⟨line, hline, hends⟩
        have hlt := ih hfeeds.2 hlater
        rw [strip_append_of_not_endsOpen (startsAnew_newline _) hopen, strip_newline,
          List.count_append, hfirst, List.count_cons_self, List.length_cons]
        omega

end Join

/-! ## What trimmed lines show -/

/-- A line shows what its trimmed line shows and then what is trimmed off. -/
theorem strip_eq_append (line : Text) :
    strip line = strip (cleanLine line) ++ strip (trimmedOff line) := by
  nth_rewrite 1 [← cleanLine_append_trimmedOff line]
  rcases trimmedOff_head line with hnil | hhead
  · rw [hnil, strip_nil, List.nil_append, List.nil_append]
  · cases htrimmed : trimmedOff line with
    | nil => rw [strip_nil, List.append_nil, List.append_nil]
    | cons c rest =>
      have hc : c = esc := hhead c (by rw [htrimmed]; rfl)
      exact strip_append_of_esc (by rw [hc]; rfl) (cleanLine line)

/-- A line shows what its trimmed line shows, up to blanks at the end, exactly if what is trimmed
off shows nothing but blanks. -/
theorem trimEnd_strip_cleanLine_iff (line : Text) :
    Text.trimEnd (strip (cleanLine line)) = Text.trimEnd (strip line) ↔
      isBlankLine (trimmedOff line) = true := by
  rw [strip_eq_append line, eq_comm, Text.trimEnd_append_eq_iff, isBlankLine]

theorem isBlankLine_cleanLine {line : Text} (h : isBlankLine line = true) :
    isBlankLine (cleanLine line) = true := by
  rw [isBlankLine, strip_eq_append, Text.isBlankText_append, Bool.and_eq_true] at h
  exact h.1

section Kept

variable {raw : Text} {i : Nat}

/-- The line that is kept of a line of the dump, empty where none is. -/
theorem getD_keptLines (raw : Text) (i : Nat) :
    (keptLines raw)[i]?.getD [] = cleanLine ((lines raw)[i]?.getD []) ∨
      ((keptLines raw)[i]?.getD [] = [] ∧
        isBlankLine (cleanLine ((lines raw)[i]?.getD [])) = true) := by
  obtain ⟨blank, happend, hblank, -⟩ := exists_keptLines_append raw
  have hclean : ((lines raw).map cleanLine)[i]?.getD [] = cleanLine ((lines raw)[i]?.getD []) := by
    rw [List.getElem?_map]
    cases (lines raw)[i]? <;> rfl
  rw [← hclean, happend]
  by_cases hi : i < (keptLines raw).length
  · left
    rw [List.getElem?_append_left hi]
  · right
    rw [List.getElem?_eq_none (Nat.le_of_not_lt hi),
      List.getElem?_append_right (Nat.le_of_not_lt hi)]
    refine ⟨rfl, ?_⟩
    cases hline : blank[i - (keptLines raw).length]? with
    | none => rfl
    | some line => exact hblank line (List.mem_of_getElem? hline)

theorem newline_not_mem_strip_keptLines (raw : Text) :
    ∀ part ∈ (keptLines raw).map strip, '\n' ∉ part := by
  intro part hpart
  obtain ⟨line, hline, rfl⟩ := List.mem_map.mp hpart
  exact not_mem_strip (newline_not_mem_keptLines hline)

/-- If no string command crosses a line feed, a line of the trimmed dump shows what the line of the
dump shows exactly if what is trimmed off that line shows nothing but blanks. -/
theorem trimEnd_lineAt_iff (h : ∀ line ∈ (keptLines raw).dropLast, ¬ EndsOpen line) (i : Nat) :
    Text.trimEnd (lineAt (strip (cleanTrailing raw)) i) =
        Text.trimEnd (strip ((lines raw)[i]?.getD [])) ↔
      isBlankLine (trimmedOff ((lines raw)[i]?.getD [])) = true := by
  have hline : lineAt (strip (cleanTrailing raw)) i = strip ((keptLines raw)[i]?.getD []) := by
    rw [cleanTrailing_eq, strip_join h, lineAt_join (newline_not_mem_strip_keptLines raw),
      List.getElem?_map]
    cases (keptLines raw)[i]? <;> rfl
  rw [hline, ← trimEnd_strip_cleanLine_iff]
  rcases getD_keptLines raw i with hkept | ⟨hkept, hblank⟩
  · rw [hkept]
  · -- nothing is kept of the line, and all that could have been kept is blank
    rw [hkept, strip_nil, Text.trimEnd_eq_nil_iff.mpr hblank]
    rfl

/-- If no string command crosses a line feed, the trimmed dump shows nothing or ends in a line that
shows something. -/
theorem strip_cleanTrailing_last (h : ∀ line ∈ (keptLines raw).dropLast, ¬ EndsOpen line) :
    strip (cleanTrailing raw) = [] ∨
      ∃ last ∈ (Text.splitOn '\n' (strip (cleanTrailing raw))).getLast?,
        ¬ Text.isBlankText last = true := by
  obtain ⟨blank, -, -, hlast⟩ := exists_keptLines_append raw
  rw [cleanTrailing_eq, strip_join h]
  by_cases hne : keptLines raw = []
  · left
    rw [hne]
    rfl
  · right
    have hkept : (keptLines raw).getLast? = some ((keptLines raw).getLast hne) :=
      List.getLast?_eq_getLast_of_ne_nil hne
    rw [Text.splitOn_join (newline_not_mem_strip_keptLines raw) (by simpa using hne),
      List.getLast?_map, hkept]
    exact ⟨_, rfl, hlast _ hkept⟩

/-- A string command that crosses a line feed leaves fewer lines than were kept, and the last of
them is not blank. -/
theorem exists_line_lost (h : ∃ line ∈ (keptLines raw).dropLast, EndsOpen line) :
    ∃ i, Text.trimEnd (lineAt (strip (cleanTrailing raw)) i) ≠
      Text.trimEnd (strip ((lines raw)[i]?.getD [])) := by
  obtain ⟨blank, happend, -, hlast⟩ := exists_keptLines_append raw
  have hne : keptLines raw ≠ [] := by
    rintro hnil
    obtain ⟨line, hline, -⟩ := h
    rw [hnil] at hline
    cases hline
  have hfeeds : ∀ line ∈ keptLines raw, '\n' ∉ line := fun _ => newline_not_mem_keptLines
  have hcount := count_newline_strip_join_of_endsOpen hfeeds h
  rw [← cleanTrailing_eq] at hcount
  refine ⟨(keptLines raw).length - 1, ?_⟩
  rw [lineAt_eq_nil (by omega)]
  intro hnil
  have hlost : isBlankLine ((lines raw)[(keptLines raw).length - 1]?.getD []) = true :=
    Text.trimEnd_eq_nil_iff.mp hnil.symm
  have hblank : isBlankLine ((keptLines raw)[(keptLines raw).length - 1]?.getD []) = true := by
    rcases getD_keptLines raw ((keptLines raw).length - 1) with hkept | ⟨hkept, -⟩
    · rw [hkept]
      exact isBlankLine_cleanLine hlost
    · rw [hkept]
      rfl
  have hfinal : (keptLines raw)[(keptLines raw).length - 1]? =
      some ((keptLines raw).getLast hne) := by
    rw [← List.getLast?_eq_getElem?, List.getLast?_eq_getLast_of_ne_nil hne]
  rw [hfinal] at hblank
  exact hlast _ (List.getLast?_eq_getLast_of_ne_nil hne) hblank

end Kept

/-- Exactly when trimming a dump keeps what its lines show, up to blanks at their ends: nothing but
blanks is trimmed off, and no line that is kept in front of another ends inside a string command. -/
theorem cleanTrailing_keeps_iff (raw : Text) :
    (∀ i, Text.trimEnd (lineAt (strip (cleanTrailing raw)) i) =
        Text.trimEnd (strip (Text.dropLastChar '\r' (lineAt raw i)))) ↔
      (∀ line ∈ lines raw, isBlankLine (trimmedOff line) = true) ∧
        ∀ line ∈ (keptLines raw).dropLast, ¬ EndsOpen line := by
  simp only [← getD_lines]
  by_cases hopen : ∃ line ∈ (keptLines raw).dropLast, EndsOpen line
  · refine iff_of_false ?_ ?_
    · intro hall
      obtain ⟨i, hi⟩ := exists_line_lost hopen
      exact hi (hall i)
    · rintro ⟨-, hnone⟩
      obtain ⟨line, hline, hends⟩ := hopen
      exact hnone line hline hends
  · have hnone : ∀ line ∈ (keptLines raw).dropLast, ¬ EndsOpen line :=
      fun line hline hends => hopen ⟨line, hline, hends⟩
    rw [and_iff_left hnone]
    simp only [trimEnd_lineAt_iff hnone]
    constructor
    · intro hall line hline
      obtain ⟨i, hi, rfl⟩ := List.getElem_of_mem hline
      have hblank := hall i
      rwa [List.getElem?_eq_getElem hi] at hblank
    · intro hall i
      cases hline : (lines raw)[i]? with
      | none => rfl
      | some line => exact hall line (List.mem_of_getElem? hline)

/-- A short sequence that ends in a digit is taken for the start of a longer escape, and the letter
after it is trimmed off with it. -/
theorem cleanTrailing_loses : ¬ ∀ raw i, Text.trimEnd (lineAt (strip (cleanTrailing raw)) i) =
    Text.trimEnd (strip (Text.dropLastChar '\r' (lineAt raw i))) := by
  intro h
  have hlost := h "\x1b7x".toList 0
  revert hlost
  decide

/-- The title of a window is a string command. Trimming takes its terminator, and then the title
takes the line after it. -/
example : strip (cleanTrailing "\x1b]0;title\x1b\\\nready".toList) = [] := by decide

end TermPilot.Screen
