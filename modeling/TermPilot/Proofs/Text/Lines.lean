import Mathlib.Data.List.DropRight
import TermPilot.Text.Lines

/-!
# Lines of a text that goes on

A text is cut behind its last line boundary. The lines in front of the cut are finished: whatever
follows the text, they stay as they are. What stands behind the cut is a line only as long as
nothing follows.
-/

namespace TermPilot.Text

/-! ## Line ends of a text file -/

section LineEnds

/-- Only a carriage return in front of a line feed is read together with what follows it. -/
theorem normaliseLineEnds_cons {c : Char} {rest : Text}
    (h : ¬ (c = '\r' ∧ rest.head? = some '\n')) :
    normaliseLineEnds (c :: rest) = (if c = '\r' then '\n' else c) :: normaliseLineEnds rest := by
  rw [normaliseLineEnds]
  rintro after rfl rfl
  exact h ⟨rfl, rfl⟩

theorem not_mem_normaliseLineEnds (t : Text) : '\r' ∉ normaliseLineEnds t := by
  fun_induction normaliseLineEnds t with
  | case1 => exact List.not_mem_nil
  | case2 rest ih =>
    rw [List.mem_cons, not_or]
    exact ⟨by decide, ih⟩
  | case3 c rest hpair ih =>
    rw [List.mem_cons, not_or]
    refine ⟨?_, ih⟩
    split
    · decide
    · next hc => exact fun heq => hc heq.symm

/-- A text is read by itself unless a carriage return and a line feed meet behind it. -/
theorem normaliseLineEnds_append_of_not_meet {t later : Text}
    (h : ¬ (t.getLast? = some '\r' ∧ later.head? = some '\n')) :
    normaliseLineEnds (t ++ later) = normaliseLineEnds t ++ normaliseLineEnds later := by
  have hlast {c : Char} {rest : Text} (hrest : rest.getLast? = some '\r') :
      (c :: rest).getLast? = some '\r' := by
    rw [List.getLast?_cons, hrest, Option.getD_some]
  fun_induction normaliseLineEnds t with
  | case1 => rfl
  | case2 rest ih =>
    rw [List.cons_append, List.cons_append, normaliseLineEnds,
      ih fun hmeet => h ⟨hlast (hlast hmeet.1), hmeet.2⟩, List.cons_append]
  | case3 c rest hpair ih =>
    have hseparate : ¬ (c = '\r' ∧ (rest ++ later).head? = some '\n') := by
      rintro ⟨rfl, hhead⟩
      cases rest with
      | nil => exact h ⟨rfl, hhead⟩
      | cons d rest =>
        obtain rfl : d = '\n' := Option.some.inj hhead
        exact hpair rest rfl rfl
    rw [List.cons_append, normaliseLineEnds_cons hseparate,
      ih fun hmeet => h ⟨hlast hmeet.1, hmeet.2⟩, List.cons_append]

/-- In front of a text that begins with no line feed a text is read by itself. -/
theorem normaliseLineEnds_append {later : Text} (h : later.head? ≠ some '\n') (t : Text) :
    normaliseLineEnds (t ++ later) = normaliseLineEnds t ++ normaliseLineEnds later :=
  normaliseLineEnds_append_of_not_meet fun hmeet => h hmeet.2

theorem normaliseLineEnds_eq_self {t : Text} (h : '\r' ∉ t) : normaliseLineEnds t = t := by
  induction t with
  | nil => rfl
  | cons c t ih =>
    rw [List.mem_cons, not_or] at h
    obtain ⟨hc, ht⟩ := h
    rw [normaliseLineEnds_cons fun hreturn => hc hreturn.1.symm, if_neg (Ne.symm hc), ih ht]

/-- A line feed at the end of a text is read as one. -/
theorem getLast?_normaliseLineEnds {t : Text} (h : t.getLast? = some '\n') :
    (normaliseLineEnds t).getLast? = some '\n' := by
  fun_induction normaliseLineEnds t with
  | case1 => cases h
  | case2 rest ih =>
    rw [List.getLast?_cons, List.getLast?_cons, Option.getD_some] at h
    rw [List.getLast?_cons]
    cases hlast : rest.getLast? with
    | none =>
      rw [List.getLast?_eq_none_iff.mp hlast]
      rfl
    | some c =>
      rw [hlast] at h
      rw [ih (hlast.trans h), Option.getD_some]
  | case3 c rest hpair ih =>
    rw [List.getLast?_cons] at h
    rw [List.getLast?_cons]
    cases hlast : rest.getLast? with
    | none =>
      rw [hlast] at h
      obtain rfl : c = '\n' := Option.some.inj h
      rw [List.getLast?_eq_none_iff.mp hlast]
      rfl
    | some d =>
      rw [hlast] at h
      rw [ih (hlast.trans h), Option.getD_some]

/-- A text that goes on keeps what is read of it. -/
theorem normaliseLineEnds_isPrefix (t later : Text) :
    normaliseLineEnds t <+: normaliseLineEnds (t ++ later) := by
  fun_induction normaliseLineEnds t with
  | case1 => exact List.nil_prefix
  | case2 rest ih =>
    rw [List.cons_append, List.cons_append, normaliseLineEnds]
    exact (List.prefix_cons_inj _).mpr ih
  | case3 c rest hpair ih =>
    by_cases hjoined : c = '\r' ∧ (rest ++ later).head? = some '\n'
    · -- the line feed that belongs to the last carriage return comes only now
      obtain ⟨rfl, hhead⟩ := hjoined
      cases rest with
      | nil =>
        obtain ⟨after, rfl⟩ : ∃ after, later = '\n' :: after := by
          cases later with
          | nil => cases hhead
          | cons d after => exact ⟨after, by rw [Option.some.inj hhead]⟩
        exact ⟨normaliseLineEnds after, rfl⟩
      | cons d rest =>
        obtain rfl : d = '\n' := Option.some.inj hhead
        exact absurd rfl (hpair rest rfl)
    · rw [List.cons_append, normaliseLineEnds_cons hjoined]
      exact (List.prefix_cons_inj _).mpr ih

end LineEnds

/-! ## The last boundary -/

/-- The text up to its last line boundary. -/
def finished (t : Text) : Text := dropWhileEnd (fun c => !isLineBoundary c) t

/-- The text behind the last line boundary. -/
def unfinished (t : Text) : Text := (t.reverse.takeWhile fun c => !isLineBoundary c).reverse

section LastBoundary

variable {t : Text}

theorem finished_append_unfinished (t : Text) : finished t ++ unfinished t = t := by
  rw [finished, dropWhileEnd, unfinished, ← List.reverse_append, List.takeWhile_append_dropWhile,
    List.reverse_reverse]

theorem finished_isPrefix (t : Text) : finished t <+: t :=
  List.rdropWhile_prefix (fun c => !isLineBoundary c) t

theorem not_isLineBoundary_of_mem_unfinished {c : Char} (h : c ∈ unfinished t) :
    isLineBoundary c = false := by
  have hc := List.mem_takeWhile_imp (List.mem_reverse.mp h)
  simpa using hc

theorem isLineBoundary_getLast_finished {c : Char} (h : c ∈ (finished t).getLast?) :
    isLineBoundary c = true := by
  have hne : finished t ≠ [] := by
    intro hnil
    rw [hnil] at h
    cases h
  have hlast : ¬ (!isLineBoundary ((finished t).getLast hne)) = true :=
    List.rdropWhile_last_not (fun c => !isLineBoundary c) t hne
  rw [List.getLast?_eq_some_getLast hne, Option.mem_some_iff] at h
  rw [← h]
  simpa using hlast

/-- A text without a boundary behind another one moves the last boundary nowhere. -/
theorem finished_append {later : Text} (h : ∀ c ∈ later, isLineBoundary c = false) (t : Text) :
    finished (t ++ later) = finished t := by
  have hdropped : ∀ c ∈ later.reverse, (!isLineBoundary c) = true := by
    intro c hc
    rw [h c (List.mem_reverse.mp hc)]
    rfl
  rw [finished, dropWhileEnd, List.reverse_append, List.dropWhile_append_of_pos hdropped]
  rfl

end LastBoundary

/-! ## Lines -/

section Lines

theorem boundedLines_cons {c : Char} (h : c ≠ '\r') (rest : Text) :
    boundedLines (c :: rest) = if isLineBoundary c then [] :: boundedLines rest
      else match boundedLines rest with
        | [] => [[c]]
        | line :: lines => (c :: line) :: lines := by
  have hpair : ∀ after, c = '\r' → rest = '\n' :: after → False := fun _ hc _ => h hc
  exact boundedLines.eq_3 c rest hpair

/-- A text without boundaries is one line, if it is not empty. -/
theorem boundedLines_of_unbounded {t : Text} (h : ∀ c ∈ t, isLineBoundary c = false) :
    boundedLines t = if t = [] then [] else [t] := by
  induction t with
  | nil => rfl
  | cons c t ih =>
    obtain ⟨hc, ht⟩ := List.forall_mem_cons.mp h
    have hreturn : c ≠ '\r' := by
      rintro rfl
      exact absurd hc (by decide)
    rw [boundedLines_cons hreturn, hc, ih ht, if_neg Bool.false_ne_true,
      if_neg (List.cons_ne_nil c t)]
    by_cases hnil : t = []
    · rw [if_pos hnil, hnil]
    · rw [if_neg hnil]

/-- A text without boundaries is one line if a boundary stands behind it. -/
theorem boundedLines_concat {t : Text} (h : ∀ c ∈ t, isLineBoundary c = false) {boundary : Char}
    (hboundary : isLineBoundary boundary = true) : boundedLines (t ++ [boundary]) = [t] := by
  induction t with
  | nil =>
    have hpair : ∀ after, boundary = '\r' → [] = '\n' :: after → False := nofun
    rw [List.nil_append, boundedLines.eq_3 boundary [] hpair, if_pos hboundary]
    rfl
  | cons c t ih =>
    obtain ⟨hc, ht⟩ := List.forall_mem_cons.mp h
    have hreturn : c ≠ '\r' := by
      rintro rfl
      exact absurd hc (by decide)
    rw [List.cons_append, boundedLines_cons hreturn, hc, ih ht, if_neg Bool.false_ne_true]

/-- No line holds a boundary. -/
theorem not_isLineBoundary_of_mem_boundedLines {t line : Text} (h : line ∈ boundedLines t) {c : Char}
    (hc : c ∈ line) : isLineBoundary c = false := by
  fun_induction boundedLines t generalizing line with
  | case1 => cases h
  | case2 rest ih =>
    rcases List.mem_cons.mp h with rfl | h
    · cases hc
    · exact ih h hc
  | case3 d rest hpair hd ih =>
    rcases List.mem_cons.mp h with rfl | h
    · cases hc
    · exact ih h hc
  | case4 d rest hpair hd hlines ih =>
    obtain rfl := List.mem_singleton.mp h
    obtain rfl := List.mem_singleton.mp hc
    exact Bool.eq_false_iff.mpr hd
  | case5 d rest hpair hd first lines hlines ih =>
    rw [hlines] at ih
    rcases List.mem_cons.mp h with rfl | h
    · rcases List.mem_cons.mp hc with rfl | hc
      · exact Bool.eq_false_iff.mpr hd
      · exact ih List.mem_cons_self hc
    · exact ih (List.mem_cons_of_mem first h) hc

theorem boundedLines_ne_nil {t : Text} (h : t ≠ []) : boundedLines t ≠ [] := by
  fun_cases boundedLines t with
  | case1 => exact absurd rfl h
  | case2 rest => exact List.cons_ne_nil _ _
  | case3 c rest hpair hc => exact List.cons_ne_nil _ _
  | case4 c rest hpair hc hlines => exact List.cons_ne_nil _ _
  | case5 c rest hpair hc line lines hlines => exact List.cons_ne_nil _ _

/-- Behind a boundary the lines of a text begin anew. -/
theorem boundedLines_append {t : Text} (hreturn : '\r' ∉ t)
    (hend : ∀ c ∈ t.getLast?, isLineBoundary c = true) (later : Text) :
    boundedLines (t ++ later) = boundedLines t ++ boundedLines later := by
  induction t with
  | nil => rfl
  | cons c t ih =>
    rw [List.mem_cons, not_or] at hreturn
    obtain ⟨hc, hrest⟩ := hreturn
    rw [List.cons_append, boundedLines_cons (Ne.symm hc), boundedLines_cons (Ne.symm hc)]
    by_cases hnil : t = []
    · subst hnil
      have hboundary : isLineBoundary c = true := hend c rfl
      rw [hboundary, if_pos rfl, if_pos rfl]
      rfl
    · have hlast : ∀ d ∈ t.getLast?, isLineBoundary d = true := by
        intro d hd
        refine hend d ?_
        rwa [List.getLast?_cons_of_ne_nil hnil]
      rw [ih hrest hlast]
      obtain ⟨line, lines, hlines⟩ := List.exists_cons_of_ne_nil (boundedLines_ne_nil hnil)
      rw [hlines]
      split <;> rfl

/-- The lines of a text are the finished ones and what stands behind them. -/
theorem boundedLines_eq {t : Text} (h : '\r' ∉ t) :
    boundedLines t =
      boundedLines (finished t) ++ if unfinished t = [] then [] else [unfinished t] := by
  have hreturn : '\r' ∉ finished t := fun hmem => h ((finished_isPrefix t).subset hmem)
  calc boundedLines t = boundedLines (finished t ++ unfinished t) := by
        rw [finished_append_unfinished]
    _ = boundedLines (finished t) ++ boundedLines (unfinished t) :=
        boundedLines_append hreturn (fun _ => isLineBoundary_getLast_finished) _
    _ = _ := by
        rw [boundedLines_of_unbounded fun _ => not_isLineBoundary_of_mem_unfinished]

/-- A text that goes on keeps its finished lines. -/
theorem boundedLines_finished_isPrefix {t whole : Text} (hreturn : '\r' ∉ t) (h : t <+: whole) :
    boundedLines (finished t) <+: boundedLines whole := by
  obtain ⟨later, rfl⟩ := h
  have hfinished : '\r' ∉ finished t := fun hmem => hreturn ((finished_isPrefix t).subset hmem)
  have hwhole : t ++ later = finished t ++ (unfinished t ++ later) := by
    rw [← List.append_assoc, finished_append_unfinished]
  rw [hwhole, boundedLines_append hfinished fun _ => isLineBoundary_getLast_finished]
  exact List.prefix_append _ _

end Lines

end TermPilot.Text
