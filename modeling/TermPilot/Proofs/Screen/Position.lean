import Mathlib.Data.Nat.Find
import TermPilot.Proofs.Recording.Payload
import TermPilot.Proofs.Screen.Foreground

/-!
# The foreground at a position

The foreground that a character is found in is the one after all style selections in front of it,
taken one after the other from none. So where the foreground at a text is looked up, it is the one
after the selections in front of the last character of the first occurrence.
-/

namespace TermPilot.Screen

open Terminal
open Recording (Fails TooLong fails_bind not_fails_ok not_fails_bind fails_bind_of_total
  fails_plain_iff exists_ok_iff_not_fails)

/-! ## Selections -/

/-- The parameters of the sequences among pieces that select styles, in order. -/
def selections (cut : List Piece) : List (List Text) :=
  cut.filterMap fun
    | .char _ => none
    | .sequence raw => (sgrParameters? raw).map splitParameters

/-- The foreground after selections that start from a foreground. -/
def foregroundAfterAll (current : Option Rgb) (selected : List (List Text)) :
    Except NumeralError (Option Rgb) :=
  selected.foldlM (fun current parameters => applyForeground parameters current) current

/-- No parameter has more digits than a number may have. -/
def HasReadableParameters (cut : List Piece) : Prop :=
  ∀ parameters ∈ selections cut, ∀ p ∈ parameters, p.length ≤ Numeral.maxDigits

instance (cut : List Piece) : Decidable (HasReadableParameters cut) :=
  inferInstanceAs (Decidable (∀ parameters ∈ selections cut, ∀ p ∈ parameters,
    p.length ≤ Numeral.maxDigits))

/-! ## Reading parameters -/

section Parameters

variable {parameters : List Text} {current : Option Rgb}

theorem fails_byte?_iff {parameter : Text} : Fails (byte? parameter) ↔ TooLong parameter := by
  unfold byte? TooLong
  by_cases hnumeral : Text.isNumeral parameter = true
  · rw [if_pos hnumeral, and_iff_right hnumeral]
    exact (fails_bind_of_total fun number => not_fails_ok _).trans fails_plain_iff
  · rw [if_neg hnumeral]
    exact iff_of_false (not_fails_ok none) fun h => hnumeral h.1

/-- A traversal fails if one of its steps does. -/
theorem fails_mapM_iff {ε α β : Type} {f : α → Except ε β} {items : List α} :
    Fails (items.mapM f) ↔ ∃ a ∈ items, Fails (f a) := by
  induction items with
  | nil => exact iff_of_false (not_fails_ok []) (by simp)
  | cons first items ih =>
    have hmore (b : β) : Fails (items.mapM f >>= fun bs => pure (b :: bs)) ↔
        ∃ a ∈ items, Fails (f a) := (fails_bind_of_total fun _ => not_fails_ok _).trans ih
    rw [List.mapM_cons, fails_bind, List.exists_mem_cons_iff]
    simp only [hmore, exists_and_right, exists_ok_iff_not_fails]
    tauto

theorem not_fails_rgb? (h : ∀ p ∈ parameters, ¬ TooLong p) : ¬ Fails (rgb? parameters) := by
  have hread : ¬ Fails (parameters.mapM byte?) := by
    intro hfails
    obtain ⟨p, hp, hbyte⟩ := fails_mapM_iff.mp hfails
    exact h p hp (fails_byte?_iff.mp hbyte)
  unfold rgb?
  refine not_fails_bind hread fun values => ?_
  split <;> exact not_fails_ok _

/-- The parameters that are read as red, green and blue. -/
def colourComponents (rest : List Text) : List Text :=
  match rest with
  | [] :: r :: g :: b :: _ => [r, g, b]
  | _ => rest.take 3

theorem mem_of_mem_colourComponents {p : Text} (h : p ∈ colourComponents parameters) :
    p ∈ parameters := by
  unfold colourComponents at h
  split at h
  · next r g b later => exact List.mem_cons_of_mem [] (List.mem_of_mem_take (i := 3) h)
  · exact List.mem_of_mem_take h

theorem not_fails_colourSpec (h : ∀ p ∈ parameters, ¬ TooLong p) :
    ¬ Fails (colourSpec parameters) := by
  cases parameters with
  | nil => exact not_fails_ok _
  | cons model rest =>
    obtain ⟨-, hrest⟩ := List.forall_mem_cons.mp h
    unfold colourSpec
    dsimp only
    split_ifs
    · have hcomponents : ¬ Fails (rgb? (colourComponents rest)) :=
        not_fails_rgb? fun p hp => hrest p (mem_of_mem_colourComponents hp)
      refine not_fails_bind hcomponents fun rgb => ?_
      cases rgb <;> exact not_fails_ok _
    · cases rest with
      | nil => exact not_fails_ok _
      | cons index rest =>
        have hindex : ¬ Fails (byte? index) :=
          fun hfails => hrest index List.mem_cons_self (fails_byte?_iff.mp hfails)
        refine not_fails_bind hindex fun n => ?_
        cases n <;> exact not_fails_ok _
    · exact not_fails_ok _

theorem not_fails_foregroundAfter (h : ∀ p ∈ parameters, ¬ TooLong p) (skip : Nat) :
    ¬ Fails (foregroundAfter skip current parameters) := by
  induction parameters generalizing skip current with
  | nil => exact not_fails_ok current
  | cons p rest ih =>
    obtain ⟨-, hrest⟩ := List.forall_mem_cons.mp h
    cases skip with
    | succ skip => exact ih hrest skip
    | zero =>
      rw [foregroundAfter]
      split_ifs
      · exact ih hrest 0
      · exact not_fails_bind (not_fails_colourSpec hrest) fun spec => ih hrest spec.used
      · exact not_fails_bind (not_fails_colourSpec hrest) fun spec => ih hrest spec.used
      · exact ih hrest 0

theorem not_fails_applyForeground (h : ∀ p ∈ parameters, ¬ TooLong p) :
    ¬ Fails (applyForeground parameters current) := by
  unfold applyForeground
  split_ifs
  · exact not_fails_ok none
  · exact not_fails_foregroundAfter h 0

end Parameters

/-! ## Characters behind selections -/

section Tinted

variable {current : Option Rgb} {before after : List Piece} {c : Char} {all : List Tinted}

theorem foregroundAfterAll_sequence {raw : Text} {next : Option Rgb}
    (h : foregroundPast current raw = .ok next) (cut : List Piece) :
    foregroundAfterAll current (selections (.sequence raw :: cut)) =
      foregroundAfterAll next (selections cut) := by
  unfold foregroundPast at h
  cases hparameters : sgrParameters? raw with
  | none =>
    rw [hparameters] at h
    cases h
    simp [selections, hparameters]
  | some parameters =>
    rw [hparameters] at h
    dsimp only at h
    simp only [selections, List.filterMap_cons, hparameters, Option.map_some, foregroundAfterAll,
      List.foldlM_cons, h]
    rfl

theorem exists_foregroundPast {raw : Text} {cut : List Piece} (h : HasReadableParameters cut)
    (hraw : .sequence raw ∈ cut) (current : Option Rgb) :
    ∃ next, foregroundPast current raw = .ok next := by
  unfold foregroundPast
  cases hparameters : sgrParameters? raw with
  | none => exact ⟨current, rfl⟩
  | some parameters =>
    have hselected : splitParameters parameters ∈ selections cut :=
      List.mem_filterMap.mpr ⟨.sequence raw, hraw, by simp [hparameters]⟩
    refine exists_ok_iff_not_fails.mpr (not_fails_applyForeground fun p hp hlong => ?_)
    exact absurd hlong.2 (Nat.not_lt.mpr (h _ hselected p hp))

theorem exists_tinted (current : Option Rgb) {cut : List Piece} (h : HasReadableParameters cut) :
    ∃ all, tinted current cut = .ok all :=
  exists_tinted_of_forall (fun _ hraw => exists_foregroundPast h hraw) current

/-- A character is found in the foreground after the selections in front of it. The induction is on
the pieces in front, and the foreground that they start from goes along. -/
theorem exists_foregroundAfterAll (h : tinted current (before ++ .char c :: after) = .ok all) :
    ∃ colour, foregroundAfterAll current (selections before) = .ok colour ∧
      all[(before.flatMap Piece.visible).length]? = some (c, colour) := by
  induction before generalizing current all with
  | nil =>
    obtain ⟨later, -, rfl⟩ := tinted_char_eq_ok.mp h
    exact ⟨current, rfl, rfl⟩
  | cons piece before ih =>
    cases piece with
    | char d =>
      obtain ⟨later, hrest, rfl⟩ := tinted_char_eq_ok.mp h
      obtain ⟨colour, hcolour, hentry⟩ := ih hrest
      refine ⟨colour, hcolour, ?_⟩
      rw [List.flatMap_cons, Piece.visible, List.singleton_append, List.length_cons,
        List.getElem?_cons_succ, hentry]
    | sequence raw =>
      obtain ⟨next, hnext, hrest⟩ := tinted_sequence_eq_ok.mp h
      rw [foregroundAfterAll_sequence hnext]
      exact ih hrest

end Tinted

/-! ## The first occurrence -/

theorem exists_occursFirst {needle text : Text} (h : needle <:+: text) :
    ∃ place, OccursFirst needle text place := by
  have hoccurs : ∃ place, needle <+: text.drop place := by
    obtain ⟨front, back, rfl⟩ := h
    refine ⟨front.length, ?_⟩
    rw [List.append_assoc, List.drop_left]
    exact List.prefix_append needle back
  exact ⟨Nat.find hoccurs, Nat.find_spec hoccurs, fun _ hearlier => Nat.find_min hoccurs hearlier⟩

/-- The foreground at a text that the line shows is the one after the selections in front of the
character that ends its first occurrence, and at any other text it is none. -/
theorem foregroundAt_selections (line needle : Text) (hne : needle ≠ [])
    (hreadable : HasReadableParameters (pieces line)) :
    (¬ needle <:+: strip line → foregroundAt line needle = .ok none) ∧
      (needle <:+: strip line → ∃ place before c after colour,
        OccursFirst needle (strip line) place ∧ pieces line = before ++ .char c :: after ∧
          (before.flatMap Piece.visible).length + 1 = place + needle.length ∧
          foregroundAfterAll none (selections before) = .ok colour ∧
          foregroundAt line needle = .ok colour) := by
  obtain ⟨all, hall⟩ := exists_tinted none hreadable
  refine ⟨foregroundAt_of_not_occurs hall, fun hoccurs => ?_⟩
  obtain ⟨place, hplace⟩ := exists_occursFirst hoccurs
  obtain ⟨entry, hentry, hfound⟩ := foregroundAt_of_occursFirst hall hne hplace
  obtain ⟨hlast, hcharacter⟩ := List.getElem?_eq_some_iff.mp (hplace.getElem?_last hne)
  have hshown : (pieces line).flatMap Piece.visible =
      (strip line).take (place + needle.length - 1) ++
        needle.getLast hne :: (strip line).drop (place + needle.length - 1 + 1) := by
    rw [← hcharacter, ← List.drop_eq_getElem_cons hlast, List.take_append_drop]
    rfl
  obtain ⟨before, after, hpieces, hbefore, -⟩ := exists_char_of_flatMap_visible hshown
  have hlength : (before.flatMap Piece.visible).length = place + needle.length - 1 := by
    rw [hbefore, List.length_take_of_le hlast.le]
  have hpositive := List.length_pos_iff.mpr hne
  rw [hpieces] at hall
  obtain ⟨colour, hcolour, hsame⟩ := exists_foregroundAfterAll hall
  rw [hlength, hentry] at hsame
  rw [Option.some.inj hsame] at hfound
  exact ⟨place, before, needle.getLast hne, after, colour, hplace, hpieces, by omega, hcolour,
    hfound⟩

/-- A red text with a bold part and a link inside, and the same text again in another colour. -/
def linkedLine : Text :=
  "\x1b[38;2;255;0;0mer\x1b[1mr\x1b]8;;u\x1b\\or\x1b[38:2::1:2:3m error".toList

theorem foregroundAt_selections_linkedLine :
    "error".toList ≠ [] ∧ HasReadableParameters (pieces linkedLine) ∧
      "error".toList <:+: strip linkedLine ∧
      (∃ place before c after colour,
        OccursFirst "error".toList (strip linkedLine) place ∧
          pieces linkedLine = before ++ .char c :: after ∧
          (before.flatMap Piece.visible).length + 1 = place + "error".toList.length ∧
          foregroundAfterAll none (selections before) = .ok colour ∧
          foregroundAt linkedLine "error".toList = .ok colour) ∧
      ¬ "u".toList <:+: strip linkedLine ∧ foregroundAt linkedLine "u".toList = .ok none := by
  have hreadable : HasReadableParameters (pieces linkedLine) := by decide
  have hoccurs : "error".toList <:+: strip linkedLine := by decide
  have hhidden : ¬ "u".toList <:+: strip linkedLine := by
    intro hshown
    have hnot : 'u' ∉ strip linkedLine := by decide
    exact hnot (hshown.subset List.mem_cons_self)
  exact ⟨by decide, hreadable, hoccurs,
    (foregroundAt_selections linkedLine "error".toList (by decide) hreadable).2 hoccurs, hhidden,
    (foregroundAt_selections linkedLine "u".toList (by decide) hreadable).1 hhidden⟩

end TermPilot.Screen
