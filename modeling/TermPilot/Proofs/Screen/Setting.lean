import TermPilot.Proofs.Screen.Parameters

/-!
# Settings of a style selection

What the parameters of a style selection mean: a parameter is a setting of its own, or several give
a colour of the foreground, of the background or of the underline. A setting is tracked if it is
read as what it means, whatever the foreground is and whatever follows it, and the foreground after
tracked settings is what the last one that changes it makes of it.
-/

namespace TermPilot.Screen

/-! ## Settings -/

/-- What a colour is for. -/
inductive Ground where
  /-- The characters. -/
  | foreground
  /-- What is behind them. -/
  | background
  /-- The line under them. -/
  | underline

/-- The parameter that introduces a colour. -/
def Ground.introducer : Ground → Text
  | .foreground => "38".toList
  | .background => "48".toList
  | .underline => "58".toList

/-- A setting in a sequence that selects styles. -/
inductive Setting where
  /-- A number that introduces no colour, or an empty parameter. -/
  | single (p : Text) (numeric : IsNumeric p) (alone : numberOf p ∉ [38, 48, 58])
  /-- A colour by its components. -/
  | components (ground : Ground) (red green blue : Component)
  /-- A colour by its number in the palette. -/
  | palette (ground : Ground) (index : Component)

/-- The parameters that a setting is written as. -/
def Setting.parameters : Setting → List Text
  | .single p _ _ => [p]
  | .components ground red green blue =>
    [ground.introducer, ['2'], red.digits, green.digits, blue.digits]
  | .palette ground index => [ground.introducer, ['5'], index.digits]

theorem Ground.isNumeric_introducer (ground : Ground) : IsNumeric ground.introducer := by
  cases ground <;> decide

theorem Setting.isNumeric_parameters (s : Setting) : ∀ p ∈ s.parameters, IsNumeric p := by
  cases s with
  | single p numeric _ => exact List.forall_mem_singleton.mpr numeric
  | components ground red green blue =>
    simp only [parameters, List.forall_mem_cons, List.not_mem_nil, IsEmpty.forall_iff,
      implies_true, and_true]
    exact ⟨ground.isNumeric_introducer, by decide, red.isNumeric, green.isNumeric, blue.isNumeric⟩
  | palette ground index =>
    simp only [parameters, List.forall_mem_cons, List.not_mem_nil, IsEmpty.forall_iff,
      implies_true, and_true]
    exact ⟨ground.isNumeric_introducer, by decide, index.isNumeric⟩

theorem Setting.parameters_ne_nil (s : Setting) : s.parameters ≠ [] := by
  cases s <;> exact List.cons_ne_nil _ _

/-- The number selects one of the sixteen foregrounds that have numbers of their own. -/
def IsNamed (n : Nat) : Prop := 30 ≤ n ∧ n ≤ 37 ∨ 90 ≤ n ∧ n ≤ 97

instance (n : Nat) : Decidable (IsNamed n) := inferInstanceAs (Decidable (_ ∨ _))

/-- What a setting makes of the foreground, if it changes it. Only a foreground that is given by its
components has red, green and blue. -/
def Setting.change? : Setting → Option (Option Rgb)
  | .single p _ _ =>
    if numberOf p ∈ [0, 39] ∨ IsNamed (numberOf p) then some none else none
  | .components .foreground red green blue => some (some (Rgb.ofComponents red green blue))
  | .palette .foreground _ => some none
  | _ => none

/-- The foreground after settings: what the last that changes it makes of it. -/
def foregroundOf (current : Option Rgb) (settings : List Setting) : Option Rgb :=
  (settings.filterMap Setting.change?).getLast?.getD current

/-! ## Tracked settings -/

/-- The parameter leaves the foreground as it is and takes nothing of what follows. -/
def IsIdle (p : Text) : Prop := ¬ Resets p ∧ ¬ Introduces p

/-- The components of an underline, which are read as parameters of their own, leave the foreground
as it is and take nothing of what follows them. One that introduces a background may take those that
are left, if these are a number in the palette or start with one that is no model. -/
def IsPassedOver (red green blue : Component) : Prop :=
  IsIdle red.digits ∧ IsIdle green.digits ∧ IsIdle blue.digits ∨
    red.digits = "48".toList ∧ (green.digits = ['5'] ∧ blue.IsShort ∨
      green.digits ≠ ['2'] ∧ green.digits ≠ ['5'] ∧ IsIdle blue.digits) ∨
    IsIdle red.digits ∧ green.digits = "48".toList ∧ blue.digits ≠ ['2'] ∧ blue.digits ≠ ['5']

/-- The setting is read as what it means: it is no foreground with a number of its own, 0 and 39 are
written without zeros in front, no component is too long, and an underline is passed over. -/
def Setting.IsTracked : Setting → Prop
  | .single p _ _ => ¬ IsNamed (numberOf p) ∧ (numberOf p ∈ [0, 39] → Resets p)
  | .components .underline red green blue => IsPassedOver red green blue
  | .components _ red green blue => red.IsShort ∧ green.IsShort ∧ blue.IsShort
  | .palette .underline index => IsIdle index.digits
  | .palette _ index => index.IsShort

instance (p : Text) : Decidable (IsIdle p) := inferInstanceAs (Decidable (_ ∧ _))

instance (red green blue : Component) : Decidable (IsPassedOver red green blue) :=
  inferInstanceAs (Decidable (_ ∨ _))

instance (s : Setting) : Decidable s.IsTracked :=
  match s with
  | .single p _ _ => inferInstanceAs (Decidable (¬ IsNamed (numberOf p) ∧ (_ → Resets p)))
  | .components .underline red green blue =>
    inferInstanceAs (Decidable (IsPassedOver red green blue))
  | .components .foreground red green blue =>
    inferInstanceAs (Decidable (red.IsShort ∧ green.IsShort ∧ blue.IsShort))
  | .components .background red green blue =>
    inferInstanceAs (Decidable (red.IsShort ∧ green.IsShort ∧ blue.IsShort))
  | .palette .underline index => inferInstanceAs (Decidable (IsIdle index.digits))
  | .palette .foreground index => inferInstanceAs (Decidable index.IsShort)
  | .palette .background index => inferInstanceAs (Decidable index.IsShort)

section Tracked

variable {p : Text} {red green blue index : Component} {current : Option Rgb} {rest : List Text}

theorem foregroundAfter_of_isIdle (h : IsIdle p) (current : Option Rgb) (rest : List Text) :
    foregroundAfter 0 current (p :: rest) = foregroundAfter 0 current rest :=
  foregroundAfter_idle h.1 h.2 current rest

/-- A background whose first parameter is no model takes that parameter alone. -/
theorem foregroundAfter_background_other (hrgb : p ≠ ['2']) (hpalette : p ≠ ['5'])
    (current : Option Rgb) (rest : List Text) :
    foregroundAfter 0 current ("48".toList :: p :: rest) = foregroundAfter 0 current rest :=
  foregroundAfter_of_spec (colourSpec_other hrgb hpalette rest) (Or.inr rfl) current

theorem numberOf_mem_of_resets (h : Resets p) : numberOf p ∈ [0, 39] := by
  rcases h with rfl | rfl | rfl <;> decide

theorem not_introduces_of_alone (h : numberOf p ∉ [38, 48, 58]) : ¬ Introduces p := by
  rintro (rfl | rfl) <;> exact absurd h (by decide)

/-- The parameters of an underline are read one by one. -/
theorem foregroundAfter_underline {model : Text} (hmodel : IsIdle model) (current : Option Rgb)
    (rest : List Text) :
    foregroundAfter 0 current (Ground.underline.introducer :: model :: rest) =
      foregroundAfter 0 current rest := by
  rw [foregroundAfter_of_isIdle (by decide), foregroundAfter_of_isIdle hmodel]

theorem IsPassedOver.foregroundAfter_eq (h : IsPassedOver red green blue) (current : Option Rgb)
    (rest : List Text) :
    foregroundAfter 0 current (red.digits :: green.digits :: blue.digits :: rest) =
      foregroundAfter 0 current rest := by
  rcases h with ⟨hred, hgreen, hblue⟩ | ⟨hred, htaken⟩ | ⟨hred, hgreen, hrgb, hpalette⟩
  · rw [foregroundAfter_of_isIdle hred, foregroundAfter_of_isIdle hgreen,
      foregroundAfter_of_isIdle hblue]
  · rcases htaken with ⟨hgreen, hblue⟩ | ⟨hrgb, hpalette, hblue⟩
    · rw [hred, hgreen]
      exact foregroundAfter_of_spec (colourSpec_palette hblue rest) (Or.inr rfl) current
    · rw [hred, foregroundAfter_background_other hrgb hpalette, foregroundAfter_of_isIdle hblue]
  · rw [foregroundAfter_of_isIdle hred, hgreen, foregroundAfter_background_other hrgb hpalette]

theorem foregroundAfter_single (hnumber : numberOf p ∉ [38, 48, 58]) (current : Option Rgb)
    (rest : List Text) :
    foregroundAfter 0 current (p :: rest) =
      foregroundAfter 0 (if Resets p then none else current) rest := by
  by_cases hresets : Resets p
  · rw [foregroundAfter_resets hresets, if_pos hresets]
  · rw [foregroundAfter_idle hresets (not_introduces_of_alone hnumber), if_neg hresets]

theorem change?_single (numeric : IsNumeric p) (alone : numberOf p ∉ [38, 48, 58]) :
    (Setting.single p numeric alone).change? =
      if numberOf p ∈ [0, 39] ∨ IsNamed (numberOf p) then some none else none := rfl

/-- A tracked setting is read as what it means. -/
theorem Setting.IsTracked.foregroundAfter_eq {s : Setting} (h : s.IsTracked)
    (current : Option Rgb) (rest : List Text) :
    foregroundAfter 0 current (s.parameters ++ rest) =
      foregroundAfter 0 (s.change?.getD current) rest := by
  cases s with
  | single p numeric alone =>
    -- of the numbers that clear the foreground only those that are not tracked are no resets
    obtain ⟨hnamed, hspelled⟩ := h
    have hclears : Resets p ↔ numberOf p ∈ [0, 39] ∨ IsNamed (numberOf p) :=
      ⟨fun hp => Or.inl (numberOf_mem_of_resets hp),
        fun hp => hspelled (hp.resolve_right hnamed)⟩
    refine (foregroundAfter_single alone current rest).trans ?_
    rw [change?_single]
    by_cases hp : Resets p
    · rw [if_pos hp, if_pos (hclears.mp hp)]
      rfl
    · rw [if_neg hp, if_neg fun hclear => hp (hclears.mpr hclear)]
      rfl
  | components ground red green blue =>
    cases ground with
    | foreground =>
      exact foregroundAfter_of_spec (colourSpec_components h.1 h.2.1 h.2.2 rest) (Or.inl rfl) _
    | background =>
      exact foregroundAfter_of_spec (colourSpec_components h.1 h.2.1 h.2.2 rest) (Or.inr rfl) _
    | underline =>
      exact (foregroundAfter_underline (by decide) current _).trans
        (IsPassedOver.foregroundAfter_eq h current rest)
  | palette ground index =>
    cases ground with
    | foreground => exact foregroundAfter_of_spec (colourSpec_palette h rest) (Or.inl rfl) _
    | background => exact foregroundAfter_of_spec (colourSpec_palette h rest) (Or.inr rfl) _
    | underline =>
      exact (foregroundAfter_underline (by decide) current _).trans
        (foregroundAfter_of_isIdle h current rest)

theorem foregroundOf_cons (current : Option Rgb) (s : Setting) (settings : List Setting) :
    foregroundOf current (s :: settings) = foregroundOf (s.change?.getD current) settings := by
  unfold foregroundOf
  cases hchange : s.change? with
  | none => rw [List.filterMap_cons_none hchange, Option.getD_none]
  | some colour =>
    rw [List.filterMap_cons_some hchange, List.getLast?_cons, Option.getD_some, Option.getD_some]

theorem foregroundAfter_settings {settings : List Setting} (h : ∀ s ∈ settings, s.IsTracked)
    (current : Option Rgb) :
    foregroundAfter 0 current (settings.flatMap Setting.parameters) =
      .ok (foregroundOf current settings) := by
  induction settings generalizing current with
  | nil => rfl
  | cons s settings ih =>
    obtain ⟨hs, hsettings⟩ := List.forall_mem_cons.mp h
    rw [List.flatMap_cons, hs.foregroundAfter_eq, ih hsettings, foregroundOf_cons]

theorem foregroundOf_append (current : Option Rgb) (earlier later : List Setting) :
    foregroundOf current (earlier ++ later) =
      foregroundOf (foregroundOf current earlier) later := by
  induction earlier generalizing current with
  | nil => rfl
  | cons s earlier ih => rw [List.cons_append, foregroundOf_cons, foregroundOf_cons, ih]

end Tracked

end TermPilot.Screen
