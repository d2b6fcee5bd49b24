import TermPilot.Proofs.Screen.Setting

/-!
# Settings that are misread

A setting that is not tracked is read as something else than it means next to a foreground that is
given by its components. Behind such a foreground it changes what it should leave or leaves what it
should change, or in front of it it takes parameters that belong to the foreground.
-/

namespace TermPilot.Screen

open Recording (Fails fails_bind bind_eq_ok)
open Component (fails_byte?_digits)

/-! ## Components that are too long -/

section Untracked

variable {p : Text} {red green blue index : Component} {params rest : List Text} {rgb : Rgb}
  {spec : ColourSpec}

theorem fails_colourSpec_components (h : ¬ (red.IsShort ∧ green.IsShort ∧ blue.IsShort))
    (rest : List Text) :
    Fails (colourSpec (['2'] :: red.digits :: green.digits :: blue.digits :: rest)) := by
  have hcut : colourComponents (red.digits :: green.digits :: blue.digits :: rest) =
      [red.digits, green.digits, blue.digits] := colourComponents_of_ne_nil red.digits_ne_nil
  obtain ⟨c, hc, hlong⟩ : ∃ c ∈ [red, green, blue], ¬ c.IsShort := by
    by_contra! hall
    exact h ⟨hall red (by simp), hall green (by simp), hall blue (by simp)⟩
  have hmem : c.digits ∈ [red, green, blue].map Component.digits := List.mem_map_of_mem hc
  have hread : Fails (rgb? [red.digits, green.digits, blue.digits]) :=
    fails_bind.mpr (Or.inl (fails_mapM_iff.mpr ⟨_, hmem, fails_byte?_digits hlong⟩))
  rw [← hcut] at hread
  exact fails_bind.mpr (Or.inl hread)

theorem fails_colourSpec_palette (h : ¬ index.IsShort) (rest : List Text) :
    Fails (colourSpec (['5'] :: index.digits :: rest)) :=
  fails_bind.mpr (Or.inl (fails_byte?_digits h))

theorem foregroundAfter_ne_of_fails (hp : Introduces p) (h : Fails (colourSpec rest))
    (current colour : Option Rgb) : foregroundAfter 0 current (p :: rest) ≠ .ok colour := by
  obtain ⟨error, herror⟩ := h
  rw [foregroundAfter_introduces hp, herror]
  intro hread
  cases hread

/-! ## How many parameters a colour takes -/

theorem length_of_mapM {ε α β : Type} {f : α → Except ε β} {items : List α} {results : List β}
    (h : items.mapM f = .ok results) : results.length = items.length := by
  induction items generalizing results with
  | nil =>
    cases h
    rfl
  | cons first items ih =>
    rw [List.mapM_cons] at h
    obtain ⟨b, -, h⟩ := bind_eq_ok.mp h
    obtain ⟨later, hlater, h⟩ := bind_eq_ok.mp h
    cases h
    rw [List.length_cons, List.length_cons, ih hlater]

theorem length_of_rgb? (h : rgb? params = .ok (some rgb)) : params.length = 3 := by
  obtain ⟨values, hvalues, hthree⟩ := bind_eq_ok.mp h
  rw [← length_of_mapM hvalues]
  split at hthree
  · rfl
  · cases hthree

theorem length_colourComponents_le (rest : List Text) :
    (colourComponents rest).length ≤ rest.length := by
  unfold colourComponents
  split
  · simp
  · exact List.length_take_le' 3 rest

/-- A colour that is given by its components takes four parameters. -/
theorem four_le_length_of_colourSpec (h : colourSpec params = .ok spec)
    (hrgb : spec.rgb = some rgb) : 4 ≤ params.length := by
  unfold colourSpec at h
  split at h
  · cases h
    cases hrgb
  · next model rest =>
    split_ifs at h
    · obtain ⟨read, hread, h⟩ := bind_eq_ok.mp h
      cases read with
      | none =>
        cases h
        cases hrgb
      | some colour =>
        have hthree : (colourComponents rest).length = 3 := length_of_rgb? hread
        have hwithin := length_colourComponents_le rest
        rw [List.length_cons]
        omega
    · split at h
      · obtain ⟨read, -, h⟩ := bind_eq_ok.mp h
        cases read <;> cases h <;> cases hrgb
      · cases h
        cases hrgb
    · cases h
      cases hrgb

/-- From no foreground it takes five parameters to get one. The induction is on the number of
parameters, of which a colour takes several. -/
theorem five_le_length_of_foreground (h : foregroundAfter 0 none params = .ok (some rgb)) :
    5 ≤ params.length := by
  induction hlength : params.length using Nat.strong_induction_on generalizing params with
  | _ length ih =>
    cases params with
    | nil => cases h
    | cons p rest =>
      rw [List.length_cons] at hlength
      by_cases hresets : Resets p
      · rw [foregroundAfter_resets hresets] at h
        have hrest := ih rest.length (by omega) h rfl
        omega
      by_cases hintroduces : Introduces p
      · rw [foregroundAfter_introduces hintroduces] at h
        obtain ⟨spec, hspec, h⟩ := bind_eq_ok.mp h
        cases hrgb : spec.rgb with
        | some colour =>
          have hrest := four_le_length_of_colourSpec hspec hrgb
          omega
        | none =>
          rw [hrgb, ite_self] at h
          have hdrop := ih (rest.drop spec.used).length (by rw [List.length_drop]; omega) h rfl
          rw [List.length_drop] at hdrop
          omega
      · rw [foregroundAfter_idle hresets hintroduces] at h
        have hrest := ih rest.length (by omega) h rfl
        omega

/-- The foreground is lost at a reset, and at a parameter that introduces a foreground but is
followed by too few others. -/
theorem foregroundAfter_ne_of_lost (h : Resets p ∨ p = "38".toList) (hrest : rest.length < 4)
    (current : Option Rgb) (rgb : Rgb) :
    foregroundAfter 0 current (p :: rest) ≠ .ok (some rgb) := by
  intro hread
  rcases h with hresets | rfl
  · rw [foregroundAfter_resets hresets] at hread
    have hlength := five_le_length_of_foreground hread
    omega
  · rw [foregroundAfter_introduces (Or.inl rfl)] at hread
    obtain ⟨spec, hspec, hread⟩ := bind_eq_ok.mp hread
    rw [if_pos rfl] at hread
    cases hrgb : spec.rgb with
    | some colour =>
      have hlength := four_le_length_of_colourSpec hspec hrgb
      omega
    | none =>
      rw [hrgb] at hread
      have hlength := five_le_length_of_foreground hread
      rw [List.length_drop] at hlength
      omega

/-! ## Next to a sample colour -/

theorem isIdle_cases (p : Text) :
    IsIdle p ∨ (Resets p ∨ p = "38".toList) ∨ p = "48".toList := by
  unfold IsIdle Introduces
  tauto

/-- A colour next to which the settings that are not tracked are seen. -/
def sampleColour : Setting :=
  .components .foreground (.ofByte 1 (by decide)) (.ofByte 2 (by decide)) (.ofByte 3 (by decide))

/-- Behind the sample colour the parameters change the foreground, or in front of it they take a
part of it. -/
def Spoils (params : List Text) : Prop :=
  foregroundAfter 0 (some ⟨1, 2, 3⟩) params ≠ .ok (some ⟨1, 2, 3⟩) ∨
    foregroundAfter 0 none (params ++ sampleColour.parameters) ≠ .ok (some ⟨1, 2, 3⟩)

theorem spoils_cons_iff (h : IsIdle p) : Spoils (p :: params) ↔ Spoils params := by
  unfold Spoils
  rw [List.cons_append, foregroundAfter_of_isIdle h, foregroundAfter_of_isIdle h]

theorem spoils_of_lost (h : Resets p ∨ p = "38".toList) (hrest : rest.length < 4) :
    Spoils (p :: rest) :=
  Or.inl (foregroundAfter_ne_of_lost h hrest _ _)

theorem spoils_last (h : ¬ IsIdle p) : Spoils [p] := by
  rcases isIdle_cases p with hidle | hlost | rfl
  · exact absurd hidle h
  · exact spoils_of_lost hlost (by decide)
  · exact Or.inr (by decide)

/-- A background that finds only one of its components takes two of the parameters that follow. -/
theorem foregroundAfter_ne_of_taken {next last : Component} (hnext : next.IsShort)
    (hlast : last.IsShort) (hrest : rest.length < 5) (blue : Component) (rgb : Rgb) :
    foregroundAfter 0 none
        ("48".toList :: ['2'] :: blue.digits :: next.digits :: last.digits :: rest) ≠
      .ok (some rgb) := by
  by_cases hblue : blue.IsShort
  · rw [foregroundAfter_of_spec (colourSpec_components hblue hnext hlast rest) (Or.inr rfl)]
    intro hread
    have hlength : 5 ≤ rest.length := five_le_length_of_foreground hread
    omega
  · have hlong : ¬ (blue.IsShort ∧ next.IsShort ∧ last.IsShort) := fun h => hblue h.1
    exact foregroundAfter_ne_of_fails (Or.inr rfl) (fails_colourSpec_components hlong rest) _ _

theorem spoils_background_components (blue : Component) :
    Spoils ["48".toList, ['2'], blue.digits] := by
  have hcomponents : [['1'], ['2'], ['3']].length < 5 := by decide
  exact Or.inr (foregroundAfter_ne_of_taken (Component.isShort_ofByte (n := 38) (by decide))
    (Component.isShort_ofByte (n := 2) (by decide)) hcomponents blue ⟨1, 2, 3⟩)

theorem spoils_components (h : ¬ IsPassedOver red green blue) :
    Spoils [red.digits, green.digits, blue.digits] := by
  unfold IsPassedOver at h
  rcases isIdle_cases red.digits with hred | hred | hred
  · rw [spoils_cons_iff hred]
    rcases isIdle_cases green.digits with hgreen | hgreen | hgreen
    · rw [spoils_cons_iff hgreen]
      exact spoils_last fun hblue => h (Or.inl ⟨hred, hgreen, hblue⟩)
    · exact spoils_of_lost hgreen (by simp)
    · -- the background takes the last component for its model, and a part of the sample colour
      have hmodel : blue.digits = ['2'] ∨ blue.digits = ['5'] := by
        by_contra hother
        exact h (Or.inr (Or.inr ⟨hred, hgreen, not_or.mp hother⟩))
      rw [hgreen]
      rcases hmodel with hblue | hblue
      · rw [hblue]
        exact Or.inr (by decide)
      · rw [hblue]
        exact Or.inr (by decide)
  · exact spoils_of_lost hred (by simp)
  · -- the background takes what is left of the underline, and after the model 2 it takes more
    rw [hred]
    by_cases hrgb : green.digits = ['2']
    · rw [hrgb]
      exact spoils_background_components blue
    by_cases hpalette : green.digits = ['5']
    · rw [hpalette]
      have hlong : ¬ blue.IsShort := fun hblue =>
        h (Or.inr (Or.inl ⟨hred, Or.inl ⟨hpalette, hblue⟩⟩))
      have hfails := fails_colourSpec_palette hlong []
      exact Or.inl (foregroundAfter_ne_of_fails (Or.inr rfl) hfails _ _)
    · have hlast : Spoils [blue.digits] := spoils_last fun hblue =>
        h (Or.inr (Or.inl ⟨hred, Or.inr ⟨hrgb, hpalette, hblue⟩⟩))
      unfold Spoils at hlast ⊢
      rwa [List.cons_append, List.cons_append, foregroundAfter_background_other hrgb hpalette,
        foregroundAfter_background_other hrgb hpalette]

/-- A setting that is not tracked changes the sample colour in front of it to something else than it
means, or spoils the sample colour behind it. -/
theorem Setting.misread {s : Setting} (h : ¬ s.IsTracked) :
    foregroundAfter 0 (some ⟨1, 2, 3⟩) s.parameters ≠ .ok (s.change?.getD (some ⟨1, 2, 3⟩)) ∨
      foregroundAfter 0 none (s.parameters ++ sampleColour.parameters) ≠ .ok (some ⟨1, 2, 3⟩) := by
  cases s with
  | single p numeric alone =>
    -- whatever it means, a parameter that resets nothing leaves the sample colour as it is
    left
    have hkept : ¬ Resets p := by
      intro hp
      have hmem := numberOf_mem_of_resets hp
      refine h ⟨fun hnamed => ?_, fun _ => hp⟩
      simp only [List.mem_cons, List.not_mem_nil, or_false] at hmem
      unfold IsNamed at hnamed
      omega
    have hmeans : numberOf p ∈ [0, 39] ∨ IsNamed (numberOf p) := by
      by_contra hnone
      exact h ⟨fun hnamed => hnone (Or.inr hnamed), fun hmem => absurd (Or.inl hmem) hnone⟩
    rw [change?_single, if_pos hmeans, Setting.parameters, foregroundAfter_single alone,
      if_neg hkept]
    intro hread
    cases hread
  | components ground red green blue =>
    cases ground with
    | foreground =>
      exact Or.inl (foregroundAfter_ne_of_fails (Or.inl rfl) (fails_colourSpec_components h []) _ _)
    | background =>
      exact Or.inl (foregroundAfter_ne_of_fails (Or.inr rfl) (fails_colourSpec_components h []) _ _)
    | underline =>
      have hspoils := spoils_components h
      rwa [← spoils_cons_iff (p := ['2']) (by decide),
        ← spoils_cons_iff (p := Ground.underline.introducer) (by decide)] at hspoils
  | palette ground index =>
    cases ground with
    | foreground =>
      exact Or.inl (foregroundAfter_ne_of_fails (Or.inl rfl) (fails_colourSpec_palette h []) _ _)
    | background =>
      exact Or.inl (foregroundAfter_ne_of_fails (Or.inr rfl) (fails_colourSpec_palette h []) _ _)
    | underline =>
      have hspoils := spoils_last h
      rwa [← spoils_cons_iff (p := ['5']) (by decide),
        ← spoils_cons_iff (p := Ground.underline.introducer) (by decide)] at hspoils

end Untracked

end TermPilot.Screen
