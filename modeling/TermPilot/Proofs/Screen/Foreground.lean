import TermPilot.Proofs.Screen.Pieces
import TermPilot.Screen.Colour

/-!
# The foreground at a text

A line is read character by character, and every escape sequence that selects a style changes the
foreground that the characters after it are found in. Where the foreground at a text is looked up,
that text is found at the end of its first occurrence, and the answer is the foreground in which its
last character is found.
-/

namespace TermPilot.Screen

open Terminal

/-! ## The first occurrence of a text -/

/-- The first place where `needle` occurs in a text. -/
structure OccursFirst (needle text : Text) (place : Nat) : Prop where
  occurs : needle <+: text.drop place
  first : ∀ earlier < place, ¬ needle <+: text.drop earlier

instance (needle text : Text) (place : Nat) : Decidable (OccursFirst needle text place) :=
  decidable_of_iff
    (needle <+: text.drop place ∧ ∀ earlier < place, ¬ needle <+: text.drop earlier)
    ⟨fun h => ⟨h.1, h.2⟩, fun h => ⟨h.occurs, h.first⟩⟩

section Occurrence

variable {needle text : Text}

/-- What has been read of a text ends in `needle` exactly where an occurrence ends. -/
theorem isSuffix_take_iff {read : Nat} (hread : read ≤ text.length) :
    needle <:+ text.take read ↔
      ∃ place, place + needle.length = read ∧ needle <+: text.drop place := by
  constructor
  · rintro ⟨before, hbefore⟩
    have hlength : before.length + needle.length = read := by
      have htake := congrArg List.length hbefore
      rw [List.length_append, List.length_take] at htake
      omega
    have htext : text = before ++ (needle ++ text.drop read) := by
      rw [← List.append_assoc, hbefore, List.take_append_drop]
    refine ⟨before.length, hlength, ?_⟩
    rw [htext, List.drop_left]
    exact List.prefix_append needle _
  · rintro ⟨place, rfl, after, hafter⟩
    refine ⟨text.take place, ?_⟩
    rw [List.take_add, ← hafter, List.take_left]

theorem OccursFirst.length_le {place : Nat} (h : OccursFirst needle text place)
    (hne : needle ≠ []) : place + needle.length ≤ text.length := by
  have hlength := h.occurs.length_le
  have hpositive := List.length_pos_iff.mpr hne
  rw [List.length_drop] at hlength
  omega

/-- The last character of an occurrence is that of the text that occurs. -/
theorem OccursFirst.getElem?_last {place : Nat} (h : OccursFirst needle text place)
    (hne : needle ≠ []) : text[place + needle.length - 1]? = some (needle.getLast hne) := by
  obtain ⟨after, hafter⟩ := h.occurs
  have hpositive := List.length_pos_iff.mpr hne
  have hplace : place + needle.length - 1 = place + (needle.length - 1) := by omega
  rw [hplace, ← List.getElem?_drop, ← hafter, List.getElem?_append_left (by omega),
    ← List.getLast?_eq_getElem?, List.getLast?_eq_some_getLast hne]

/-- The last character of an occurrence splits the text where it stands. -/
theorem OccursFirst.exists_split {place : Nat} (h : OccursFirst needle text place)
    (hne : needle ≠ []) :
    ∃ before c after, text = before ++ c :: after ∧ before.length + 1 = place + needle.length := by
  obtain ⟨hlast, hcharacter⟩ := List.getElem?_eq_some_iff.mp (h.getElem?_last hne)
  refine ⟨text.take (place + needle.length - 1), needle.getLast hne,
    text.drop (place + needle.length - 1 + 1), ?_, ?_⟩
  · rw [← hcharacter, ← List.drop_eq_getElem_cons hlast, List.take_append_drop]
  · have hpositive := List.length_pos_iff.mpr hne
    rw [List.length_take_of_le hlast.le]
    omega

end Occurrence

/-! ## Tinted text -/

/-- A character and the foreground that it is found in. -/
abbrev Tinted := Char × Option Rgb

/-- The foreground after an escape sequence. One that selects no style leaves it as it is. -/
def foregroundPast (current : Option Rgb) (raw : Text) : Except NumeralError (Option Rgb) :=
  match sgrParameters? raw with
  | some parameters => applyForeground (splitParameters parameters) current
  | none => .ok current

/-- The characters that pieces show, each with the foreground that it is found in. -/
def tinted (current : Option Rgb) : List Piece → Except NumeralError (List Tinted)
  | [] => .ok []
  | .char c :: rest => (tinted current rest).map ((c, current) :: ·)
  | .sequence raw :: rest => (foregroundPast current raw).bind fun next => tinted next rest

/-- The foreground of the character at which the text read so far, given backwards, first ends in
`needle`. -/
def tintAt (needle shown : Text) : List Tinted → Option Rgb
  | [] => none
  | (c, colour) :: rest =>
    if needle.reverse.isPrefixOf (c :: shown) then colour else tintAt needle (c :: shown) rest

section Tinted

variable {current : Option Rgb} {needle shown : Text} {all : List Tinted}

theorem tinted_char (c : Char) (current : Option Rgb) (rest : List Piece) :
    tinted current (.char c :: rest) = (tinted current rest).map ((c, current) :: ·) := rfl

theorem tinted_sequence {raw : Text} {next : Option Rgb} (h : foregroundPast current raw = .ok next)
    (rest : List Piece) : tinted current (.sequence raw :: rest) = tinted next rest := by
  rw [tinted, h]
  rfl

theorem tinted_char_eq_ok {c : Char} {rest : List Piece} :
    tinted current (.char c :: rest) = .ok all ↔
      ∃ later, tinted current rest = .ok later ∧ all = (c, current) :: later := by
  rw [tinted_char]
  cases tinted current rest with
  | error error => exact iff_of_false (fun h => nomatch h) (fun ⟨_, h, _⟩ => nomatch h)
  | ok later => simp [Except.map, eq_comm]

theorem tinted_sequence_eq_ok {raw : Text} {rest : List Piece} :
    tinted current (.sequence raw :: rest) = .ok all ↔
      ∃ next, foregroundPast current raw = .ok next ∧ tinted next rest = .ok all := by
  rw [tinted]
  cases foregroundPast current raw with
  | error error => exact iff_of_false (fun h => nomatch h) (fun ⟨_, h, _⟩ => nomatch h)
  | ok next => simp [Except.bind]

theorem foregroundFrom_sequence (needle shown : Text) (current : Option Rgb) (raw : Text)
    (rest : List Piece) :
    foregroundFrom needle shown current (.sequence raw :: rest) =
      (foregroundPast current raw).bind fun next => foregroundFrom needle shown next rest := by
  rw [foregroundFrom, foregroundPast]
  cases sgrParameters? raw <;> rfl

/-- Pieces are tinted if each of their sequences leads from any foreground to another. -/
theorem exists_tinted_of_forall {cut : List Piece}
    (h : ∀ raw, .sequence raw ∈ cut → ∀ current, ∃ next, foregroundPast current raw = .ok next)
    (current : Option Rgb) : ∃ all, tinted current cut = .ok all := by
  induction cut generalizing current with
  | nil => exact ⟨[], rfl⟩
  | cons piece cut ih =>
    have hcut := ih fun raw hraw => h raw (List.mem_cons_of_mem piece hraw)
    cases piece with
    | char c =>
      obtain ⟨later, hlater⟩ := hcut current
      exact ⟨(c, current) :: later, tinted_char_eq_ok.mpr ⟨later, hlater, rfl⟩⟩
    | sequence raw =>
      obtain ⟨next, hnext⟩ := h raw List.mem_cons_self current
      obtain ⟨all, hall⟩ := hcut next
      exact ⟨all, tinted_sequence_eq_ok.mpr ⟨next, hnext, hall⟩⟩

/-- Tinted text is the visible text. -/
theorem map_fst_tinted {cut : List Piece} (h : tinted current cut = .ok all) :
    all.map Prod.fst = cut.flatMap Piece.visible := by
  induction cut generalizing current all with
  | nil =>
    cases h
    rfl
  | cons piece rest ih =>
    cases piece with
    | char c =>
      obtain ⟨later, hrest, rfl⟩ := tinted_char_eq_ok.mp h
      rw [List.map_cons, ih hrest]
      rfl
    | sequence raw =>
      obtain ⟨next, -, hrest⟩ := tinted_sequence_eq_ok.mp h
      exact ih hrest

/-- The foreground that is looked up in the pieces is the one that is found in the tinted text. -/
theorem foregroundFrom_eq_tintAt {cut : List Piece} (h : tinted current cut = .ok all) :
    foregroundFrom needle shown current cut = .ok (tintAt needle shown all) := by
  induction cut generalizing current shown all with
  | nil =>
    cases h
    rfl
  | cons piece rest ih =>
    cases piece with
    | char c =>
      obtain ⟨later, hrest, rfl⟩ := tinted_char_eq_ok.mp h
      simp only [foregroundFrom, tintAt]
      split
      · rfl
      · exact ih hrest
    | sequence raw =>
      obtain ⟨next, hnext, hrest⟩ := tinted_sequence_eq_ok.mp h
      rw [foregroundFrom_sequence, hnext]
      exact ih hrest

/-! ## Looking up -/

theorem isPrefixOf_reverse_iff {c : Char} :
    needle.reverse.isPrefixOf (c :: shown) = true ↔ needle <:+ shown.reverse ++ [c] := by
  rw [List.isPrefixOf_iff_prefix, ← List.reverse_prefix, List.reverse_append, List.reverse_reverse]
  rfl

/-- The text read so far grows by the character that is read. -/
theorem reverse_cons_append_take {c : Char} {colour : Option Rgb} {rest : List Tinted} (read : Nat) :
    (c :: shown).reverse ++ (rest.map Prod.fst).take read =
      shown.reverse ++ (((c, colour) :: rest).map Prod.fst).take (read + 1) := by
  rw [List.reverse_cons, List.append_assoc, List.map_cons, List.take_succ_cons]
  rfl

theorem tintAt_eq_none
    (h : ∀ read < all.length, ¬ needle <:+ shown.reverse ++ (all.map Prod.fst).take (read + 1)) :
    tintAt needle shown all = none := by
  induction all generalizing shown with
  | nil => rfl
  | cons entry rest ih =>
    obtain ⟨c, colour⟩ := entry
    have hhead : ¬ needle.reverse.isPrefixOf (c :: shown) = true := by
      rw [isPrefixOf_reverse_iff]
      exact h 0 (Nat.zero_lt_succ _)
    rw [tintAt, if_neg hhead]
    refine ih fun read hread => ?_
    rw [reverse_cons_append_take]
    exact h (read + 1) (Nat.succ_lt_succ hread)

theorem tintAt_eq {last : Nat} {entry : Tinted} (hentry : all[last]? = some entry)
    (hend : needle <:+ shown.reverse ++ (all.map Prod.fst).take (last + 1))
    (hfirst : ∀ read < last, ¬ needle <:+ shown.reverse ++ (all.map Prod.fst).take (read + 1)) :
    tintAt needle shown all = entry.2 := by
  induction all generalizing shown last with
  | nil => cases hentry
  | cons head rest ih =>
    obtain ⟨c, colour⟩ := head
    cases last with
    | zero =>
      cases hentry
      rw [tintAt, if_pos (isPrefixOf_reverse_iff.mpr hend)]
    | succ last =>
      have hhead : ¬ needle.reverse.isPrefixOf (c :: shown) = true := by
        rw [isPrefixOf_reverse_iff]
        exact hfirst 0 (Nat.zero_lt_succ _)
      rw [tintAt, if_neg hhead]
      refine ih hentry ?_ fun read hread => ?_
      · rwa [reverse_cons_append_take]
      · rw [reverse_cons_append_take]
        exact hfirst (read + 1) (Nat.succ_lt_succ hread)

end Tinted

section Lookup

variable {line needle : Text} {all : List Tinted}

/-- The foreground at a text that the line does not show is none. -/
theorem foregroundAt_of_not_occurs (h : tinted none (pieces line) = .ok all)
    (hoccurs : ¬ needle <:+: strip line) : foregroundAt line needle = .ok none := by
  have hshown : all.map Prod.fst = strip line := map_fst_tinted h
  have hnone : tintAt needle [] all = none := by
    refine tintAt_eq_none fun read _ hsuffix => hoccurs ?_
    rw [hshown] at hsuffix
    exact hsuffix.isInfix.trans (List.take_prefix _ _).isInfix
  rw [foregroundAt, foregroundFrom_eq_tintAt h, hnone]

/-- The foreground at a text is the one that the last character of its first occurrence is found
in. -/
theorem foregroundAt_of_occursFirst (h : tinted none (pieces line) = .ok all) (hne : needle ≠ [])
    {place : Nat} (hplace : OccursFirst needle (strip line) place) :
    ∃ entry, all[place + needle.length - 1]? = some entry ∧
      foregroundAt line needle = .ok entry.2 := by
  have hshown : all.map Prod.fst = strip line := map_fst_tinted h
  have hlength : (strip line).length = all.length := by rw [← hshown, List.length_map]
  have hpositive := List.length_pos_iff.mpr hne
  have hwithin := hplace.length_le hne
  obtain ⟨entry, hentry⟩ : ∃ entry, all[place + needle.length - 1]? = some entry :=
    ⟨_, List.getElem?_eq_getElem (by omega)⟩
  have hfound : tintAt needle [] all = entry.2 := by
    refine tintAt_eq hentry ?_ fun read hread hsuffix => ?_
    · rw [hshown]
      exact (isSuffix_take_iff (by omega)).mpr ⟨place, by omega, hplace.occurs⟩
    · rw [hshown] at hsuffix
      obtain ⟨earlier, hearlier, hoccurs⟩ := (isSuffix_take_iff (by omega)).mp hsuffix
      exact hplace.first earlier (by omega) hoccurs
  exact ⟨entry, hentry, by rw [foregroundAt, foregroundFrom_eq_tintAt h, hfound]⟩

end Lookup

end TermPilot.Screen
