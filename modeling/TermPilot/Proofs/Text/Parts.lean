import Mathlib.Data.List.DropRight
import Mathlib.Data.List.Infix
import TermPilot.Text.Blank

/-!
# Cutting, joining and trimming texts

Cutting a text at a separator and joining the parts undo each other, and trimming is decided by
the first and the last character that is not blank.
-/

namespace TermPilot.Text

/-! ## Parts between separators -/

/-- The cut of this library is the one of lists. -/
theorem splitOn_eq (sep : Char) (t : Text) : splitOn sep t = List.splitOn sep t := by
  induction t with
  | nil => rfl
  | cons c rest ih =>
    rw [splitOn, List.splitOn_cons_eq_if_modifyHead, ← ih]
    by_cases hc : c = sep
    · simp [hc]
    · rw [if_neg hc, if_neg (by simpa using hc)]
      cases h : splitOn sep rest with
      | nil => exact absurd h (splitOn_ne_nil sep rest)
      | cons part parts => rfl

theorem splitOn_join {sep : Char} {parts : List Text} (h : ∀ part ∈ parts, sep ∉ part)
    (hne : parts ≠ []) : splitOn sep (join [sep] parts) = parts := by
  rw [splitOn_eq, join, List.splitOn_intercalate sep h hne]

/-- Joined parts are the same text only if they are the same parts. -/
theorem join_inj {sep : Char} {parts others : List Text} (hparts : ∀ part ∈ parts, sep ∉ part)
    (hothers : ∀ part ∈ others, sep ∉ part) (hlength : parts.length = others.length) :
    join [sep] parts = join [sep] others ↔ parts = others := by
  refine ⟨fun h => ?_, congrArg _⟩
  by_cases hnil : parts = []
  · rw [hnil, eq_comm, List.length_nil, List.length_eq_zero_iff] at hlength
    rw [hnil, hlength]
  · have hne : others ≠ [] := by
      rintro rfl
      exact hnil (List.length_eq_zero_iff.mp hlength)
    rw [← splitOn_join hparts hnil, h, splitOn_join hothers hne]

/-- A text with `n` separators has `n + 1` parts. -/
theorem length_splitOn (sep : Char) (t : Text) : (splitOn sep t).length = t.count sep + 1 := by
  induction t with
  | nil => rfl
  | cons c rest ih =>
    rw [splitOn_eq, List.splitOn_cons_eq_if_modifyHead, ← splitOn_eq]
    by_cases hc : c = sep
    · simp [hc, ih]
    · simp [hc, ih]

/-- No part holds the separator. -/
theorem not_mem_of_mem_splitOn {sep : Char} {t part : Text} (h : part ∈ splitOn sep t) :
    sep ∉ part := by
  induction t generalizing part with
  | nil =>
    rw [splitOn, List.mem_singleton] at h
    simp [h]
  | cons c rest ih =>
    rw [splitOn] at h
    split at h
    · rcases List.mem_cons.mp h with rfl | h
      · exact List.not_mem_nil
      · exact ih h
    · next hc =>
      cases hs : splitOn sep rest with
      | nil => exact absurd hs (splitOn_ne_nil sep rest)
      | cons first others =>
        rw [hs] at h ih
        rcases List.mem_cons.mp h with rfl | h
        · rw [List.mem_cons, not_or]
          exact ⟨fun e => hc e.symm, ih List.mem_cons_self⟩
        · exact ih (List.mem_cons_of_mem first h)

theorem join_cons_cons (sep first second : Text) (parts : List Text) :
    join sep (first :: second :: parts) = first ++ sep ++ join sep (second :: parts) :=
  List.intercalate_cons_cons ..

theorem replaceChar_eq_self {old new : Char} {t : Text} (h : old ∉ t) :
    replaceChar old new t = t := by
  have hsame : ∀ c ∈ t, (if c = old then new else c) = c := by
    intro c hc
    refine if_neg ?_
    rintro rfl
    exact h hc
  exact (List.map_congr_left hsame).trans (List.map_id' t)

/-! ## The first separator -/

theorem cutAt_append {sep : Char} {before : Text} (h : sep ∉ before) (after : Text) :
    cutAt sep (before ++ sep :: after) = some (before, after) := by
  induction before with
  | nil => simp [cutAt]
  | cons c rest ih =>
    rw [List.mem_cons, not_or] at h
    rw [List.cons_append, cutAt, if_neg (fun e => h.1 e.symm), ih h.2]
    rfl

theorem cutAt_eq_none {sep : Char} {t : Text} (h : sep ∉ t) : cutAt sep t = none := by
  induction t with
  | nil => rfl
  | cons c rest ih =>
    rw [List.mem_cons, not_or] at h
    rw [cutAt, if_neg (fun e => h.1 e.symm), ih h.2]
    rfl

/-- A text is cut at its first separator. -/
theorem cutAt_eq_some_iff {sep : Char} {t before after : Text} :
    cutAt sep t = some (before, after) ↔ t = before ++ sep :: after ∧ sep ∉ before := by
  constructor
  · intro h
    induction t generalizing before after with
    | nil => simp [cutAt] at h
    | cons c rest ih =>
      rw [cutAt] at h
      split at h
      · next hc =>
        simp only [Option.some.injEq, Prod.mk.injEq] at h
        obtain ⟨rfl, rfl⟩ := h
        exact ⟨by rw [hc, List.nil_append], List.not_mem_nil⟩
      · next hc =>
        obtain ⟨⟨b, a⟩, hb, he⟩ := Option.map_eq_some_iff.mp h
        simp only [Prod.mk.injEq] at he
        obtain ⟨rfl, rfl⟩ := he
        obtain ⟨hr, hn⟩ := ih hb
        refine ⟨by rw [hr, List.cons_append], ?_⟩
        rw [List.mem_cons, not_or]
        exact ⟨fun e => hc e.symm, hn⟩
  · rintro ⟨rfl, h⟩
    exact cutAt_append h after

/-! ## Words -/

/-- Looking a text up among words finds a word that is this text. -/
theorem exists_word_of_find? {α : Type} {words : List (String × α)} {t : Text} {a : α}
    (h : (words.find? fun (known, _) => known.toList = t).map Prod.snd = some a) :
    ∃ word, (word, a) ∈ words ∧ word.toList = t := by
  obtain ⟨⟨word, found⟩, hfind, rfl⟩ := Option.map_eq_some_iff.mp h
  have hword : word.toList = t := by simpa using List.find?_some hfind
  exact ⟨word, List.mem_of_find?_eq_some hfind, hword⟩

/-! ## Starts -/

theorem dropStart?_append (start rest : Text) : dropStart? start (start ++ rest) = some rest := by
  have hstart : start.isPrefixOf (start ++ rest) = true :=
    List.isPrefixOf_iff_prefix.mpr (List.prefix_append start rest)
  rw [dropStart?, if_pos hstart, List.drop_left]

theorem dropStart?_eq_none {start t : Text} (h : ¬ start <+: t) : dropStart? start t = none := by
  rw [dropStart?, if_neg fun hstart => h (List.isPrefixOf_iff_prefix.mp hstart)]

/-! ## Markers -/

/-- A marker that holds its first character only once does not occur earlier than behind a text
without it: an occurrence cannot begin in the text and end behind it. -/
theorem prefix_of_append_marker {first : Char} {marker before t after rest : Text}
    (hfirst : first ∉ marker) (ht : ¬ first :: marker <:+: t)
    (h : before ++ (first :: marker ++ after) = t ++ (first :: marker ++ rest)) : t <+: before := by
  rcases List.append_eq_append_iff.mp h with ⟨between, rfl, hmarkers⟩ | ⟨between, rfl, -⟩
  · -- the occurrence begins in the text, so it ends there, or the next one begins in it
    rcases List.append_eq_append_iff.mp hmarkers with ⟨more, hbetween, -⟩ | ⟨more, hmarker, hmore⟩
    · rw [hbetween, ← List.append_assoc] at ht
      exact absurd (List.infix_append before _ more) ht
    · cases between with
      | nil => rw [List.append_nil]
      | cons c between =>
        obtain ⟨-, htail⟩ := List.cons.inj hmarker
        cases more with
        | nil =>
          rw [← List.append_nil (c :: between), ← hmarker] at ht
          exact absurd (List.suffix_append before _).isInfix ht
        | cons d more =>
          obtain ⟨rfl, -⟩ := List.cons.inj hmore
          rw [htail] at hfirst
          exact absurd (List.mem_append_right between List.mem_cons_self) hfirst
  · exact List.prefix_append t between

/-! ## Trimming -/

/-- The last of what is left does not satisfy what has been dropped at the end. -/
theorem not_of_mem_getLast?_rdropWhile {α : Type} {p : α → Bool} {l : List α} {a : α}
    (h : a ∈ (l.rdropWhile p).getLast?) : ¬ p a = true := by
  have hne : l.rdropWhile p ≠ [] := by
    intro hnil
    rw [hnil] at h
    cases h
  rw [List.getLast?_eq_getLast_of_ne_nil hne, Option.mem_some_iff] at h
  rw [← h]
  exact List.rdropWhile_last_not p l hne

theorem isBlankText_append (a b : Text) :
    isBlankText (a ++ b) = (isBlankText a && isBlankText b) := List.all_append

theorem trimEnd_isPrefix (t : Text) : trimEnd t <+: t := List.rdropWhile_prefix isBlank t

theorem trimEnd_eq_nil_iff {t : Text} : trimEnd t = [] ↔ isBlankText t = true := by
  rw [isBlankText, List.all_eq_true]
  exact List.rdropWhile_eq_nil_iff

/-- Blank text at the end is trimmed away whole. -/
theorem trimEnd_append_of_blank {b : Text} (h : isBlankText b = true) (a : Text) :
    trimEnd (a ++ b) = trimEnd a := by
  have hb : ∀ c ∈ b.reverse, isBlank c = true := by
    simpa [isBlankText] using h
  rw [trimEnd, dropWhileEnd, List.reverse_append, List.dropWhile_append_of_pos hb]
  rfl

/-- Trimming stops in a text that is not blank. -/
theorem trimEnd_append_of_not_blank {b : Text} (h : ¬ isBlankText b = true) (a : Text) :
    trimEnd (a ++ b) = a ++ trimEnd b := by
  have hb : ¬ (b.reverse.dropWhile isBlank).isEmpty = true := by
    rw [List.isEmpty_iff]
    intro he
    exact h (trimEnd_eq_nil_iff.mp (by rw [trimEnd, dropWhileEnd, he, List.reverse_nil]))
  rw [trimEnd, trimEnd, dropWhileEnd, dropWhileEnd, List.reverse_append, List.dropWhile_append,
    if_neg hb, List.reverse_append, List.reverse_reverse]

/-- A text can be taken off the end without changing the trimmed text exactly if it is blank. -/
theorem trimEnd_append_eq_iff {a b : Text} :
    trimEnd (a ++ b) = trimEnd a ↔ isBlankText b = true := by
  constructor
  · intro h
    by_contra hb
    have hlen : (trimEnd (a ++ b)).length ≤ a.length := by
      rw [h]
      exact List.IsPrefix.length_le (trimEnd_isPrefix a)
    rw [trimEnd_append_of_not_blank hb, List.length_append] at hlen
    have hnil : trimEnd b = [] := List.eq_nil_of_length_eq_zero (by omega)
    exact hb (trimEnd_eq_nil_iff.mp hnil)
  · intro h
    exact trimEnd_append_of_blank h a

theorem trimEnd_eq_self {t : Text} (h : ∀ c ∈ t.getLast?, isBlank c = false) :
    trimEnd t = t := by
  refine List.rdropWhile_eq_self_iff.mpr fun hne => ?_
  have hlast := h (t.getLast hne) (List.getLast?_eq_getLast_of_ne_nil hne)
  simp [hlast]

/-- A text that begins and ends in characters that are not blank is trimmed. -/
theorem trim_eq_self {t : Text} (hfirst : ∀ c ∈ t.head?, isBlank c = false)
    (hlast : ∀ c ∈ t.getLast?, isBlank c = false) : trim t = t := by
  have hstart : trimStart t = t := by
    cases t with
    | nil => rfl
    | cons c rest =>
      have hc : isBlank c = false := hfirst c rfl
      exact List.dropWhile_cons_of_neg (by simp [hc])
  rw [trim, hstart, trimEnd_eq_self hlast]

/-- A trimmed text does not end in a blank. -/
theorem not_isBlank_of_trim_eq_self {t : Text} (h : trim t = t) :
    ∀ c ∈ t.getLast?, isBlank c = false := by
  intro c hc
  rw [← h] at hc
  exact Bool.eq_false_iff.mpr (not_of_mem_getLast?_rdropWhile hc)

@[simp] theorem trim_nil : trim [] = [] := rfl

theorem trim_isInfix (t : Text) : trim t <:+: t :=
  (trimEnd_isPrefix (trimStart t)).isInfix.trans (List.dropWhile_suffix isBlank).isInfix

theorem mem_of_mem_trim {c : Char} {t : Text} (h : c ∈ trim t) : c ∈ t :=
  (trim_isInfix t).subset h

/-- What has been trimmed stays as it is. -/
theorem trim_trim (t : Text) : trim (trim t) = trim t := by
  refine trim_eq_self ?_ ?_
  · intro c hc
    have hstart : (t.dropWhile isBlank).head? = some c := by
      obtain ⟨rest, hrest⟩ := List.head?_eq_some_iff.mp hc
      obtain ⟨dropped, hdropped⟩ := trimEnd_isPrefix (trimStart t)
      change trim t ++ dropped = t.dropWhile isBlank at hdropped
      rw [← hdropped, hrest]
      rfl
    have hnot := List.head?_dropWhile_not isBlank t
    rwa [hstart] at hnot
  · intro c hc
    exact Bool.eq_false_iff.mpr (not_of_mem_getLast?_rdropWhile hc)

end TermPilot.Text
