import Mathlib.Data.List.Sort
import TermPilot.Proofs.Screen.Parameters

/-!
# The colours of a row

The sequences on a row that set a colour are listed once each, in the order in which they first
occur. This and what they are leaves only one list, and the colours that they set are read from it
one by one.
-/

namespace TermPilot.Screen

open Terminal
open Recording (Fails TooLong not_fails_ok exists_ok_iff_not_fails)

/-! ## Sequences in a line -/

/-- The text is a sequence that selects a style. -/
def IsSgr (t : Text) : Prop := ∃ parameters, IsParameters parameters ∧ t = sgrSequence parameters

section Sequences

variable {parameters after line raw other t rest : Text} {c : Char} {seen later : List Text}

theorem cutSgr?_sgr_append (hp : IsParameters parameters) (after : Text) :
    cutSgr? (sgrSequence parameters ++ after) = some (parameters, after) := by
  have htake : (parameters ++ 'm' :: after).takeWhile isSgrParameter = parameters := by
    rw [List.takeWhile_append_of_pos hp, List.takeWhile_cons_of_neg (by decide), List.append_nil]
  have hdrop : (parameters ++ 'm' :: after).dropWhile isSgrParameter = 'm' :: after := by
    rw [List.dropWhile_append_of_pos hp, List.dropWhile_cons_of_neg (by decide)]
  have hwhole : sgrSequence parameters ++ after = esc :: '[' :: (parameters ++ 'm' :: after) := by
    simp [sgrSequence]
  simp only [hwhole, cutSgr?, if_pos, htake, hdrop]

theorem eq_sgr_append_of_cutSgr? (h : cutSgr? t = some (parameters, after)) :
    IsParameters parameters ∧ t = sgrSequence parameters ++ after := by
  unfold cutSgr? at h
  split at h
  · next e rest =>
    split_ifs at h with he
    have hcut : rest.takeWhile isSgrParameter ++ rest.dropWhile isSgrParameter = rest :=
      List.takeWhile_append_dropWhile
    split at h
    · next later hlater =>
      obtain ⟨rfl, rfl⟩ := Prod.mk.inj (Option.some.inj h)
      refine ⟨fun c hc => List.mem_takeWhile_imp hc, ?_⟩
      rw [hlater] at hcut
      rw [he, sgrSequence, List.cons_append, List.cons_append, List.append_assoc,
        List.singleton_append, hcut]
    · cases h
  · cases h

/-- Only one sequence starts a text. -/
theorem IsSgr.eq_of_isPrefix (hraw : IsSgr raw) (hother : IsSgr other) (hstart : raw <+: t)
    (hsame : other <+: t) : raw = other := by
  obtain ⟨parameters, hp, rfl⟩ := hraw
  obtain ⟨others, ho, rfl⟩ := hother
  obtain ⟨after, rfl⟩ := hstart
  obtain ⟨later, hlater⟩ := hsame
  have hcut := cutSgr?_sgr_append hp after
  rw [← hlater, cutSgr?_sgr_append ho] at hcut
  rw [(Prod.mk.inj (Option.some.inj hcut)).1]

theorem IsSgr.ne_nil (h : IsSgr raw) : raw ≠ [] := by
  obtain ⟨parameters, -, rfl⟩ := h
  exact List.cons_ne_nil _ _

theorem sgrSequences_cons (hraw : IsSgr raw) (hstart : raw <+: c :: rest) :
    sgrSequences (c :: rest) = raw :: sgrSequences rest := by
  obtain ⟨parameters, hp, rfl⟩ := hraw
  obtain ⟨after, hafter⟩ := hstart
  rw [sgrSequences, ← hafter, cutSgr?_sgr_append hp after]
  rfl

theorem sgrSequences_cons_of_none (h : ∀ raw, IsSgr raw → ¬ raw <+: c :: rest) :
    sgrSequences (c :: rest) = sgrSequences rest := by
  rw [sgrSequences]
  cases hcut : cutSgr? (c :: rest) with
  | none => rfl
  | some found =>
    obtain ⟨parameters, after⟩ := found
    obtain ⟨hp, htext⟩ := eq_sgr_append_of_cutSgr? hcut
    refine absurd ?_ (h _ ⟨parameters, hp, rfl⟩)
    rw [htext]
    exact List.prefix_append _ after

/-- A line is read by what it starts with: a sequence, or nothing that is one. -/
theorem sgrSequences_cases (c : Char) (rest : Text) :
    (∃ raw, IsSgr raw ∧ raw <+: c :: rest ∧ sgrSequences (c :: rest) = raw :: sgrSequences rest) ∨
      (∀ raw, IsSgr raw → ¬ raw <+: c :: rest) ∧
        sgrSequences (c :: rest) = sgrSequences rest := by
  by_cases h : ∃ raw, IsSgr raw ∧ raw <+: c :: rest
  · obtain ⟨raw, hraw, hstart⟩ := h
    exact Or.inl ⟨raw, hraw, hstart, sgrSequences_cons hraw hstart⟩
  · have hnone : ∀ raw, IsSgr raw → ¬ raw <+: c :: rest :=
      fun raw hraw hstart => h ⟨raw, hraw, hstart⟩
    exact Or.inr ⟨hnone, sgrSequences_cons_of_none hnone⟩

theorem mem_sgrSequences_iff : raw ∈ sgrSequences line ↔ IsSgr raw ∧ raw <:+: line := by
  induction line with
  | nil =>
    refine iff_of_false List.not_mem_nil ?_
    rintro ⟨hraw, hinfix⟩
    exact hraw.ne_nil (List.infix_nil.mp hinfix)
  | cons c rest ih =>
    rw [List.infix_cons_iff]
    obtain ⟨first, hfirst, hstart, hcut⟩ | ⟨hnone, hcut⟩ := sgrSequences_cases c rest
    · rw [hcut, List.mem_cons, ih]
      constructor
      · rintro (rfl | ⟨hraw, hinfix⟩)
        · exact ⟨hfirst, Or.inl hstart⟩
        · exact ⟨hraw, Or.inr hinfix⟩
      · rintro ⟨hraw, hhere | hinfix⟩
        · exact Or.inl (hraw.eq_of_isPrefix hfirst hhere hstart)
        · exact Or.inr ⟨hraw, hinfix⟩
    · rw [hcut, ih]
      exact and_congr_right fun hraw => (or_iff_right (hnone raw hraw)).symm

/-- Where a sequence of a line stands, those read before it and no others stand in front. -/
theorem exists_place (h : sgrSequences line = seen ++ raw :: later) :
    ∃ place, raw <+: line.drop place ∧
      (∀ other ∈ seen, ∃ earlier < place, other <+: line.drop earlier) ∧
      ∀ other, IsSgr other → ∀ earlier < place, other <+: line.drop earlier → other ∈ seen := by
  induction line generalizing seen with
  | nil => simp [sgrSequences] at h
  | cons c rest ih =>
    obtain ⟨first, hfirst, hstart, hcut⟩ | ⟨hnone, hcut⟩ := sgrSequences_cases c rest
    · rw [hcut] at h
      cases seen with
      | nil =>
        obtain ⟨rfl, -⟩ := List.cons.inj h
        exact ⟨0, hstart, by simp, by simp⟩
      | cons head seen =>
        obtain ⟨rfl, hlater⟩ := List.cons.inj h
        obtain ⟨place, hplace, hseen, honly⟩ := ih hlater
        refine ⟨place + 1, hplace, ?_, ?_⟩
        · intro other hother
          rcases List.mem_cons.mp hother with rfl | hother
          · exact ⟨0, Nat.succ_pos place, hstart⟩
          · obtain ⟨earlier, hearlier, hoccurs⟩ := hseen other hother
            exact ⟨earlier + 1, Nat.succ_lt_succ hearlier, hoccurs⟩
        · intro other hother earlier hearlier hoccurs
          cases earlier with
          | zero => exact List.mem_cons.mpr (Or.inl (hother.eq_of_isPrefix hfirst hoccurs hstart))
          | succ earlier =>
            exact List.mem_cons_of_mem first
              (honly other hother earlier (Nat.lt_of_succ_lt_succ hearlier) hoccurs)
    · rw [hcut] at h
      obtain ⟨place, hplace, hseen, honly⟩ := ih h
      refine ⟨place + 1, hplace, ?_, ?_⟩
      · intro other hother
        obtain ⟨earlier, hearlier, hoccurs⟩ := hseen other hother
        exact ⟨earlier + 1, Nat.succ_lt_succ hearlier, hoccurs⟩
      · intro other hother earlier hearlier hoccurs
        cases earlier with
        | zero => exact absurd hoccurs (hnone other hother)
        | succ earlier => exact honly other hother earlier (Nat.lt_of_succ_lt_succ hearlier) hoccurs

end Sequences

/-! ## The order of first occurrences -/

/-- The first occurrence of a text in the line is in front of that of another. -/
def FirstBefore (line a b : Text) : Prop :=
  ∃ i j, OccursFirst a line i ∧ OccursFirst b line j ∧ i < j

section Order

variable {line a b needle text raw other : Text} {seen later : List Text}

theorem OccursFirst.le {place earlier : Nat} (h : OccursFirst needle text place)
    (hoccurs : needle <+: text.drop earlier) : place ≤ earlier :=
  Nat.le_of_not_lt fun hlt => h.first earlier hlt hoccurs

theorem OccursFirst.unique {place earlier : Nat} (h : OccursFirst needle text place)
    (hother : OccursFirst needle text earlier) : place = earlier :=
  Nat.le_antisymm (h.le hother.occurs) (hother.le h.occurs)

instance : Std.Irrefl (FirstBefore line) where
  irrefl := by
    rintro a ⟨i, j, hi, hj, hlt⟩
    exact absurd (hi.unique hj) (Nat.ne_of_lt hlt)

instance : Std.Antisymm (FirstBefore line) where
  antisymm := by
    rintro a b ⟨i, j, hi, hj, hlt⟩ ⟨k, l, hk, hl, hgt⟩
    rw [hi.unique hl, hj.unique hk] at hlt
    exact absurd hgt (Nat.lt_asymm hlt)

/-- A sequence that has not been read before first occurs behind all that have. -/
theorem firstBefore_of_sgrSequences (h : sgrSequences line = seen ++ raw :: later)
    (hnew : raw ∉ seen) (hother : other ∈ seen) : FirstBefore line other raw := by
  obtain ⟨place, hplace, hseen, honly⟩ := exists_place h
  obtain ⟨earlier, hearlier, hoccurs⟩ := hseen other hother
  have hmem : raw ∈ sgrSequences line := by
    rw [h]
    exact List.mem_append_right seen List.mem_cons_self
  have hfirst : OccursFirst raw line place :=
    ⟨hplace, fun i hi hhere => hnew (honly raw (mem_sgrSequences_iff.mp hmem).1 i hi hhere)⟩
  have hinfix : other <:+: line := hoccurs.isInfix.trans (List.drop_suffix earlier line).isInfix
  obtain ⟨i, hi⟩ := exists_occursFirst hinfix
  exact ⟨i, place, hi, hfirst, Nat.lt_of_le_of_lt (hi.le hoccurs) hearlier⟩

end Order

/-! ## Colours of sequences -/

/-- The sequence sets a colour, by its components or by its number in the palette. -/
def SetsColour (raw : Text) : Prop :=
  ∃ colour, Colour.parse raw = .ok (some colour) ∧
    (colour.rgb.isSome = true ∨ colour.palette.isSome = true)

/-- No parameter of a sequence in the line has more digits than a number may have. -/
def HasReadableColours (line : Text) : Prop :=
  ∀ parameters, IsParameters parameters → sgrSequence parameters <:+: line →
    ∀ p ∈ splitParameters parameters, p.length ≤ Numeral.maxDigits

section Parse

variable {raw parameters line : Text} {params rest : List Text} {foreground : Bool}
  {colour : Colour} {spec : ColourSpec}

theorem firstColour?_isSuffix (h : firstColour? params = some (foreground, rest)) :
    rest <:+ params := by
  induction params with
  | nil => cases h
  | cons p params ih =>
    rw [firstColour?] at h
    split_ifs at h
    · obtain ⟨-, rfl⟩ := Prod.mk.inj (Option.some.inj h)
      exact List.suffix_cons p params
    · obtain ⟨-, rfl⟩ := Prod.mk.inj (Option.some.inj h)
      exact List.suffix_cons p params
    · exact (ih h).trans (List.suffix_cons p params)

theorem HasReadableColours.not_fails_parse (h : HasReadableColours line)
    (hraw : raw ∈ sgrSequences line) : ¬ Fails (Colour.parse raw) := by
  obtain ⟨⟨parameters, hp, rfl⟩, hinfix⟩ := mem_sgrSequences_iff.mp hraw
  rw [Colour.parse, sgrParameters?_sgr hp, Option.bind_some]
  cases hfound : firstColour? (splitParameters parameters) with
  | none => exact not_fails_ok none
  | some found =>
    obtain ⟨foreground, rest⟩ := found
    refine Recording.not_fails_bind (not_fails_colourSpec fun p hmem hlong => ?_)
      fun spec => not_fails_ok _
    have hlength := h parameters hp hinfix p ((firstColour?_isSuffix hfound).subset hmem)
    exact absurd hlong.2 (Nat.not_lt.mpr hlength)

/-- Components and a number in the palette are never given at once. -/
theorem rgb_or_palette_of_colourSpec (h : colourSpec params = .ok spec) :
    spec.rgb = none ∨ spec.palette = none := by
  unfold colourSpec at h
  split at h
  · cases h
    exact Or.inl rfl
  · split_ifs at h
    · obtain ⟨rgb, -, h⟩ := Recording.bind_eq_ok.mp h
      cases rgb <;> cases h <;> exact Or.inr rfl
    · split at h
      · obtain ⟨index, -, h⟩ := Recording.bind_eq_ok.mp h
        cases index <;> cases h <;> exact Or.inl rfl
      · cases h
        exact Or.inl rfl
    · cases h
      exact Or.inl rfl

theorem of_parse (h : Colour.parse raw = .ok (some colour)) :
    colour.raw = raw ∧ (colour.rgb = none ∨ colour.palette = none) := by
  unfold Colour.parse at h
  split at h
  · cases h
  · obtain ⟨spec, hspec, h⟩ := Recording.bind_eq_ok.mp h
    cases h
    exact ⟨rfl, rgb_or_palette_of_colourSpec hspec⟩

end Parse

/-! ## Collecting -/

/-- Of the sequences that have been read, those that set a colour have been found, in an order. -/
structure Collects (before : Text → Text → Prop) (seen found : List Text) : Prop where
  mem_iff : ∀ raw, raw ∈ found ↔ raw ∈ seen ∧ SetsColour raw
  ordered : found.Pairwise before

section Collect

variable {before : Text → Text → Prop} {seen found raws : List Text} {raw : Text}

theorem distinctColours_of_mem (h : raw ∈ found) (raws : List Text) :
    distinctColours found (raw :: raws) = distinctColours found raws := by
  rw [distinctColours, if_pos (by simpa using h)]

theorem distinctColours_of_setsColour (hnew : raw ∉ found) (h : SetsColour raw)
    (raws : List Text) :
    distinctColours found (raw :: raws) = distinctColours (found ++ [raw]) raws := by
  obtain ⟨⟨whole, foreground, rgb, palette⟩, hparse, hsome⟩ := h
  rw [distinctColours, if_neg (by simpa using hnew), hparse]
  cases rgb with
  | some rgb => rfl
  | none =>
    cases palette with
    | some index => rfl
    | none => simp at hsome

theorem distinctColours_of_not_setsColour (hparse : ¬ Fails (Colour.parse raw))
    (h : ¬ SetsColour raw) (raws : List Text) :
    distinctColours found (raw :: raws) = distinctColours found raws := by
  by_cases hfound : raw ∈ found
  · exact distinctColours_of_mem hfound raws
  obtain ⟨parsed, hparsed⟩ := exists_ok_iff_not_fails.mpr hparse
  rw [distinctColours, if_neg (by simpa using hfound), hparsed]
  cases parsed with
  | none => rfl
  | some colour =>
    obtain ⟨whole, foreground, rgb, palette⟩ := colour
    cases rgb with
    | some rgb => exact absurd ⟨_, hparsed, Or.inl rfl⟩ h
    | none =>
      cases palette with
      | some index => exact absurd ⟨_, hparsed, Or.inr rfl⟩ h
      | none => rfl

/-- A sequence that is read next is found if it is new and sets a colour. -/
theorem Collects.step (h : Collects before seen found) (hparse : ¬ Fails (Colour.parse raw))
    (hbefore : raw ∉ seen → ∀ other ∈ seen, before other raw) :
    ∃ next, (∀ raws, distinctColours found (raw :: raws) = distinctColours next raws) ∧
      Collects before (seen ++ [raw]) next := by
  by_cases hsets : SetsColour raw
  · by_cases hfound : raw ∈ found
    · refine ⟨found, distinctColours_of_mem hfound, fun other => ?_, h.ordered⟩
      have hseen := ((h.mem_iff raw).mp hfound).1
      have hmem : other ∈ seen ++ [raw] ↔ other ∈ seen := by
        rw [List.mem_append, List.mem_singleton, or_iff_left_iff_imp]
        rintro rfl
        exact hseen
      rw [h.mem_iff, hmem]
    · have hnew : raw ∉ seen := fun hseen => hfound ((h.mem_iff raw).mpr ⟨hseen, hsets⟩)
      refine ⟨found ++ [raw], distinctColours_of_setsColour hfound hsets, fun other => ?_, ?_⟩
      · rw [List.mem_append, List.mem_append, h.mem_iff, or_and_right, List.mem_singleton]
        refine or_congr_right ⟨?_, And.left⟩
        rintro rfl
        exact ⟨rfl, hsets⟩
      · refine List.pairwise_append.mpr ⟨h.ordered, List.pairwise_singleton _ _, ?_⟩
        intro other hother last hlast
        rw [List.mem_singleton.mp hlast]
        exact hbefore hnew other ((h.mem_iff other).mp hother).1
  · refine ⟨found, distinctColours_of_not_setsColour hparse hsets, fun other => ?_, h.ordered⟩
    rw [h.mem_iff, List.mem_append, List.mem_singleton, or_and_right, iff_self_or]
    rintro ⟨rfl, hother⟩
    exact absurd hother hsets

/-- What has been found of all sequences; the induction is on those that are still to be read. -/
theorem Collects.run (h : Collects before seen found)
    (hparse : ∀ raw ∈ raws, ¬ Fails (Colour.parse raw))
    (hbefore : ∀ front raw back, seen ++ raws = front ++ raw :: back → raw ∉ front →
      ∀ other ∈ front, before other raw) :
    ∃ result, distinctColours found raws = .ok result ∧ Collects before (seen ++ raws) result := by
  induction raws generalizing seen found with
  | nil =>
    rw [List.append_nil]
    exact ⟨found, rfl, h⟩
  | cons raw raws ih =>
    obtain ⟨hraw, hraws⟩ := List.forall_mem_cons.mp hparse
    have hshift : seen ++ raw :: raws = seen ++ [raw] ++ raws := by simp
    obtain ⟨next, hnext, hcollects⟩ := h.step hraw (hbefore seen raw raws rfl)
    obtain ⟨result, hresult, hall⟩ := ih hcollects hraws (by rwa [← hshift])
    exact ⟨result, by rw [hnext, hresult], by rwa [hshift]⟩

end Collect

/-! ## Rows -/

/-- The texts are the sequences of the line that set a colour, each once, in the order of their
first occurrences. -/
structure ListsColours (line : Text) (found : List Text) : Prop where
  complete : ∀ raw, raw ∈ found ↔ IsSgr raw ∧ raw <:+: line ∧ SetsColour raw
  distinct : found.Nodup
  ordered : found.Pairwise (FirstBefore line)

section Rows

variable {line : Text} {found others : List Text}

theorem ListsColours.unique (h : ListsColours line found) (hother : ListsColours line others) :
    found = others :=
  h.ordered.eq_of_mem_iff hother.ordered fun raw => by rw [h.complete, hother.complete]

theorem exists_lineColours (h : HasReadableColours line) :
    ∃ found, lineColours line = .ok found ∧ ListsColours line found := by
  have hnone : Collects (FirstBefore line) [] [] := ⟨by simp, List.Pairwise.nil⟩
  obtain ⟨found, hfound, hcollects⟩ := hnone.run (fun raw hraw => h.not_fails_parse hraw)
    fun front raw back hcut hnew other hother => firstBefore_of_sgrSequences hcut hnew hother
  refine ⟨found, hfound, fun raw => ?_, hcollects.ordered.nodup, hcollects.ordered⟩
  rw [hcollects.mem_iff, List.nil_append, mem_sgrSequences_iff, and_assoc]

/-- Sequences that set colours are parsed one by one. -/
theorem exists_mapM_parse (h : ∀ raw ∈ found, SetsColour raw) :
    ∃ colours : List Colour, found.mapM Colour.parse = .ok (colours.map some) ∧
      colours.map Colour.raw = found ∧
      ∀ colour ∈ colours, Colour.parse colour.raw = .ok (some colour) ∧
        (colour.rgb.isSome = true ∧ colour.palette = none ∨
          colour.rgb = none ∧ colour.palette.isSome = true) := by
  induction found with
  | nil => exact ⟨[], rfl, rfl, by simp⟩
  | cons raw found ih =>
    obtain ⟨⟨colour, hparse, hsome⟩, hfound⟩ := List.forall_mem_cons.mp h
    obtain ⟨colours, hcolours, hraws, hall⟩ := ih hfound
    obtain ⟨hraw, hone⟩ := of_parse hparse
    refine ⟨colour :: colours, ?_, by rw [List.map_cons, hraw, hraws],
      List.forall_mem_cons.mpr ⟨⟨by rw [hraw, hparse], ?_⟩, hall⟩⟩
    · rw [List.mapM_cons, hparse, hcolours]
      rfl
    · rcases hone with hnone | hnone
      · exact Or.inr ⟨hnone, hsome.resolve_left (by simp [hnone])⟩
      · exact Or.inl ⟨hsome.resolve_right (by simp [hnone]), hnone⟩

end Rows

/-- The sequences that are found on a row are the ones that set a colour, each once and in the order
of their first occurrences, and no other list is; each of them is parsed to a colour that has either
components or a number in the palette. -/
theorem rowColours_eq_ok_iff {raw line : Text} {row : Nat} (hrow : (lines raw)[row]? = some line)
    (hreadable : HasReadableColours line) :
    (∀ found, rowColours raw row = .ok found ↔ ListsColours line found) ∧
      ∃ found colours, rowColours raw row = .ok found ∧ rowColoursParsed raw row = .ok colours ∧
        colours.map Colour.raw = found ∧
        ∀ colour ∈ colours, Colour.parse colour.raw = .ok (some colour) ∧
          (colour.rgb.isSome = true ∧ colour.palette = none ∨
            colour.rgb = none ∧ colour.palette.isSome = true) := by
  obtain ⟨found, hfound, hlists⟩ := exists_lineColours hreadable
  have hline : row? raw row = some line := by
    rw [row?, if_neg (by omega), Int.toNat_natCast, hrow]
  have hcolours : rowColours raw row = .ok found := by
    rw [rowColours, hline]
    exact hfound
  obtain ⟨colours, hparsed, hraws, hall⟩ :=
    exists_mapM_parse fun raw hraw => ((hlists.complete raw).mp hraw).2.2
  refine ⟨fun others => ⟨?_, ?_⟩, found, colours, hcolours, ?_, hraws, hall⟩
  · intro h
    rw [hcolours] at h
    cases h
    exact hlists
  · intro h
    rw [hcolours, hlists.unique h]
  · have hsome : (colours.map some).filterMap id = colours := by simp
    rw [rowColoursParsed, hcolours]
    show (found.mapM Colour.parse >>= fun parsed => Except.ok (parsed.filterMap id)) = _
    rw [hparsed]
    exact congrArg Except.ok hsome

/-- A row with a colour, a reset, a background, the first colour again, a colour without a model and
one in a link. -/
def colouredDump : Text :=
  "top\n\x1b[38:2::1:2:3ma\x1b[0mb\x1b[1;48;5;9mc\x1b[38:2::1:2:3md\x1b[38m\x1b]8;;\x1b[48;2;0;0;0m\x07"
    |>.toList

theorem rowColours_eq_ok_iff_colouredDump :
    ∃ line, (lines colouredDump)[1]? = some line ∧ HasReadableColours line ∧
      (∀ found, rowColours colouredDump 1 = .ok found ↔ ListsColours line found) ∧
      ∃ found colours, rowColours colouredDump 1 = .ok found ∧
        rowColoursParsed colouredDump 1 = .ok colours ∧ colours.map Colour.raw = found ∧
        ∀ colour ∈ colours, Colour.parse colour.raw = .ok (some colour) ∧
          (colour.rgb.isSome = true ∧ colour.palette = none ∨
            colour.rgb = none ∧ colour.palette.isSome = true) := by
  have hrow : (lines colouredDump)[1]? = some (colouredDump.drop 4) := by decide
  have hreadable : HasReadableColours (colouredDump.drop 4) := by
    have hshort : ∀ raw ∈ sgrSequences (colouredDump.drop 4),
        ∀ parameters ∈ sgrParameters? raw, ∀ p ∈ splitParameters parameters,
          p.length ≤ Numeral.maxDigits := by decide
    intro parameters hp hinfix
    exact hshort _ (mem_sgrSequences_iff.mpr ⟨⟨parameters, hp, rfl⟩, hinfix⟩) parameters
      (sgrParameters?_sgr hp)
  exact ⟨_, hrow, hreadable, rowColours_eq_ok_iff hrow hreadable⟩

/-- The colour of the row that occurs twice is listed once, and the one without a model is not. -/
example : rowColours colouredDump 1 = .ok ["\x1b[38:2::1:2:3m".toList, "\x1b[1;48;5;9m".toList,
    "\x1b[48;2;0;0;0m".toList] := by decide

end TermPilot.Screen
