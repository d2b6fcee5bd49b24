import TermPilot.Proofs.Number.Decimal
import TermPilot.Proofs.Screen.Position
import TermPilot.Proofs.Screen.Styled
import TermPilot.Proofs.Text.Parts

/-!
# Parameters of style selections

The parameters of a sequence that selects styles are runs of digits, which may be empty, with a
semicolon or a colon between two of them. A colour is given by several parameters, of which the
first introduces it, and any other parameter resets the foreground or leaves it as it is.
-/

namespace TermPilot.Screen

open Recording (Fails)

/-! ## Numbers -/

/-- The number that a run of decimal digits stands for. -/
def numberOf (digits : Text) : Nat :=
  Numeral.ofDigits 10 (digits.map fun c => c.toNat - '0'.toNat)

/-- The text is a number or empty. -/
def IsNumeric (p : Text) : Prop := ∀ c ∈ p, c.isDigit = true

/-- A parameter that stands for a number of at most 255. It may start with zeros. -/
structure Component where
  /-- The parameter. -/
  digits : Text
  isNumeral : Text.isNumeral digits = true
  le_max : numberOf digits ≤ 255

/-- The number that a component stands for. -/
def Component.value (c : Component) : Nat := numberOf c.digits

/-- The component has no more digits than a number may have. -/
def Component.IsShort (c : Component) : Prop := c.digits.length ≤ Numeral.maxDigits

/-- The component that is written without zeros in front. -/
def Component.ofByte (n : Nat) (h : n < 256) : Component :=
  ⟨Double.digits n, Double.isNumeral_digits n, by
    rw [numberOf, Double.ofDigits_digits]
    omega⟩

/-- The colour with the given components. -/
def Rgb.ofComponents (red green blue : Component) : Rgb := ⟨red.value, green.value, blue.value⟩

instance (p : Text) : Decidable (IsNumeric p) :=
  decidable_of_iff (p.all Char.isDigit = true) List.all_eq_true

instance (c : Component) : Decidable c.IsShort := inferInstanceAs (Decidable (_ ≤ _))

section Component

variable {c red green blue : Component}

theorem Component.digits_ne_nil (c : Component) : c.digits ≠ [] := by
  have hnumeral := c.isNumeral
  simp only [Text.isNumeral, Bool.and_eq_true, Bool.not_eq_true', List.isEmpty_eq_false_iff]
    at hnumeral
  exact hnumeral.1

theorem Component.isNumeric (c : Component) : IsNumeric c.digits := by
  have hnumeral := c.isNumeral
  simp only [Text.isNumeral, Bool.and_eq_true, List.all_eq_true] at hnumeral
  exact hnumeral.2

theorem Component.value_ofByte {n : Nat} (h : n < 256) : (ofByte n h).value = n :=
  Double.ofDigits_digits n

theorem Component.isShort_ofByte {n : Nat} (h : n < 256) : (ofByte n h).IsShort := by
  have hdigits : ∀ k < 256, (Double.digits k).length ≤ 3 := by decide +kernel
  exact (hdigits n h).trans (by decide)

theorem Component.IsShort.byte?_digits (h : c.IsShort) : byte? c.digits = .ok (some c.value) := by
  have hplain : Numeral.plain c.digits = .ok c.value := if_neg (Nat.not_lt.mpr h)
  rw [byte?, if_pos c.isNumeral, hplain]
  exact congrArg Except.ok (if_pos c.le_max)

theorem Component.fails_byte?_digits (h : ¬ c.IsShort) : Fails (byte? c.digits) :=
  fails_byte?_iff.mpr ⟨c.isNumeral, Nat.not_le.mp h⟩

end Component

/-! ## Colours among parameters -/

/-- The parameter introduces a colour, of the foreground or of the background. -/
def Introduces (p : Text) : Prop := p = "38".toList ∨ p = "48".toList

/-- The parameter resets the foreground. -/
def Resets (p : Text) : Prop := p = [] ∨ p = ['0'] ∨ p = "39".toList

instance (p : Text) : Decidable (Introduces p) := inferInstanceAs (Decidable (_ ∨ _))

instance (p : Text) : Decidable (Resets p) := inferInstanceAs (Decidable (_ ∨ _))

section ColourSpec

variable {red green blue index : Component} {model : Text} {rest : List Text} {rgb : Rgb}

theorem rgb?_components (hred : red.IsShort) (hgreen : green.IsShort) (hblue : blue.IsShort) :
    rgb? [red.digits, green.digits, blue.digits] =
      .ok (some (Rgb.ofComponents red green blue)) := by
  simp only [rgb?, List.mapM_cons, List.mapM_nil, hred.byte?_digits, hgreen.byte?_digits,
    hblue.byte?_digits]
  rfl

theorem colourSpec_of_rgb? (h : rgb? (colourComponents rest) = .ok (some rgb)) :
    colourSpec (['2'] :: rest) = .ok ⟨some rgb, none, 1 + (colourComponents rest).length⟩ := by
  show (rgb? (colourComponents rest)).bind _ = _
  rw [h]
  rfl

theorem colourComponents_of_ne_nil {first : Text} (h : first ≠ []) :
    colourComponents (first :: rest) = (first :: rest).take 3 := by
  unfold colourComponents
  split
  · next he => exact absurd (List.cons.inj he).1 h
  · rfl

/-- Three components after the model are a colour, and they end it. -/
theorem colourSpec_components (hred : red.IsShort) (hgreen : green.IsShort) (hblue : blue.IsShort)
    (rest : List Text) :
    colourSpec (['2'] :: red.digits :: green.digits :: blue.digits :: rest) =
      .ok ⟨some (Rgb.ofComponents red green blue), none, 4⟩ := by
  have hcut : colourComponents (red.digits :: green.digits :: blue.digits :: rest) =
      [red.digits, green.digits, blue.digits] := colourComponents_of_ne_nil red.digits_ne_nil
  rw [colourSpec_of_rgb? (by rw [hcut, rgb?_components hred hgreen hblue]), hcut]
  rfl

/-- With an empty colour space in front of them the last component is not counted as used. -/
theorem colourSpec_spaced (hred : red.IsShort) (hgreen : green.IsShort) (hblue : blue.IsShort)
    (rest : List Text) :
    colourSpec (['2'] :: [] :: red.digits :: green.digits :: blue.digits :: rest) =
      .ok ⟨some (Rgb.ofComponents red green blue), none, 4⟩ :=
  colourSpec_of_rgb? (rgb?_components hred hgreen hblue)

theorem colourSpec_palette (h : index.IsShort) (rest : List Text) :
    colourSpec (['5'] :: index.digits :: rest) = .ok ⟨none, some index.value, 2⟩ := by
  show (byte? index.digits).bind _ = _
  rw [h.byte?_digits]
  rfl

theorem colourSpec_other (hrgb : model ≠ ['2']) (hpalette : model ≠ ['5']) (rest : List Text) :
    colourSpec (model :: rest) = .ok ⟨none, none, 1⟩ := by
  unfold colourSpec
  dsimp only
  rw [if_neg hrgb, if_neg hpalette]
  rfl

end ColourSpec

/-! ## Separated parameters -/

/-- The text holds the parameters with a semicolon or a colon between two of them. -/
inductive IsSeparated : List Text → Text → Prop where
  /-- A parameter alone. -/
  | single (p : Text) : IsSeparated [p] p
  /-- A parameter, a separator and more parameters. -/
  | cons (p : Text) {rest : List Text} {t : Text} {sep : Char} (hsep : sep = ';' ∨ sep = ':')
      (h : IsSeparated rest t) : IsSeparated (p :: rest) (p ++ sep :: t)

section Separated

variable {params : List Text} {t : Text}

theorem isSeparated_join (hne : params ≠ []) : IsSeparated params (Text.join [';'] params) := by
  induction params with
  | nil => exact absurd rfl hne
  | cons p rest ih =>
    cases rest with
    | nil => simpa [Text.join] using IsSeparated.single p
    | cons q rest =>
      rw [Text.join_cons_cons, List.append_assoc]
      exact .cons p (Or.inl rfl) (ih (List.cons_ne_nil q rest))

theorem IsSeparated.ne_nil (h : IsSeparated params t) : params ≠ [] := by
  cases h <;> exact List.cons_ne_nil _ _

theorem IsSeparated.isParameters (h : IsSeparated params t) (hnumeric : ∀ p ∈ params, IsNumeric p) :
    IsParameters t := by
  have hdigit : ∀ c : Char, c.isDigit = true → isSgrParameter c = true := by
    intro c hc
    rw [isSgrParameter, hc]
    rfl
  induction h with
  | single p => exact fun c hc => hdigit c (hnumeric p List.mem_cons_self c hc)
  | cons p hsep _ ih =>
    obtain ⟨hp, hrest⟩ := List.forall_mem_cons.mp hnumeric
    intro c hc
    rcases List.mem_append.mp hc with hc | hc
    · exact hdigit c (hp c hc)
    rcases List.mem_cons.mp hc with rfl | hc
    · rcases hsep with rfl | rfl <;> rfl
    · exact ih hrest c hc

theorem IsNumeric.not_mem {p : Text} (h : IsNumeric p) {c : Char} (hc : c.isDigit = false) :
    c ∉ p :=
  fun hmem => absurd (h c hmem) (by simp [hc])

/-- With every separator written as a semicolon the parameters are joined by semicolons. -/
theorem IsSeparated.replaceChar_eq (h : IsSeparated params t)
    (hnumeric : ∀ p ∈ params, IsNumeric p) :
    Text.replaceChar ':' ';' t = Text.join [';'] params := by
  induction h with
  | single p =>
    have hp := hnumeric p List.mem_cons_self
    rw [Text.replaceChar_eq_self (hp.not_mem (by decide))]
    simp [Text.join]
  | @cons p rest t sep hsep h ih =>
    obtain ⟨hp, hrest⟩ := List.forall_mem_cons.mp hnumeric
    obtain ⟨q, later, rfl⟩ := List.exists_cons_of_ne_nil h.ne_nil
    have hfirst : Text.replaceChar ':' ';' p = p :=
      Text.replaceChar_eq_self (hp.not_mem (by decide))
    have happend : Text.replaceChar ':' ';' (p ++ sep :: t) =
        Text.replaceChar ':' ';' p ++ ';' :: Text.replaceChar ':' ';' t := by
      rcases hsep with rfl | rfl <;> simp [Text.replaceChar]
    rw [happend, hfirst, ih hrest, Text.join_cons_cons, List.append_assoc]
    rfl

/-- The parameters are read back from their text, but for a single one that is empty. -/
theorem IsSeparated.splitParameters_eq (h : IsSeparated params t)
    (hnumeric : ∀ p ∈ params, IsNumeric p) (hne : t ≠ []) : splitParameters t = params := by
  have hfree : ∀ p ∈ params, ';' ∉ p := fun p hp => (hnumeric p hp).not_mem (by decide)
  rw [splitParameters, if_neg (by simpa using hne), h.replaceChar_eq hnumeric,
    Text.splitOn_join hfree h.ne_nil]

theorem IsSeparated.of_nil (h : IsSeparated params []) : params = [[]] := by
  generalize ht : ([] : Text) = t at h
  cases h with
  | single p => rw [← ht]
  | cons p hsep h => simp at ht

end Separated

/-! ## The foreground after parameters -/

/-- The foreground after parameters that introduce no colour. -/
def afterPlain (current : Option Rgb) (params : List Text) : Option Rgb :=
  if ∃ p ∈ params, Resets p then none else current

section Foreground

variable {p : Text} {params : List Text} {t : Text} {current : Option Rgb} {spec : ColourSpec}

/-- Parameters that belong to an earlier one are passed over. -/
theorem foregroundAfter_skip (n : Nat) (current : Option Rgb) (params : List Text) :
    foregroundAfter n current params = foregroundAfter 0 current (params.drop n) := by
  induction params generalizing n with
  | nil => cases n <;> rfl
  | cons p rest ih =>
    cases n with
    | zero => rfl
    | succ n => exact ih n

theorem foregroundAfter_resets (h : Resets p) (current : Option Rgb) (rest : List Text) :
    foregroundAfter 0 current (p :: rest) = foregroundAfter 0 none rest := by
  rw [foregroundAfter]
  exact if_pos h

theorem foregroundAfter_idle (hresets : ¬ Resets p) (hcolour : ¬ Introduces p)
    (current : Option Rgb) (rest : List Text) :
    foregroundAfter 0 current (p :: rest) = foregroundAfter 0 current rest := by
  rw [foregroundAfter]
  exact (if_neg hresets).trans (if_neg hcolour)

theorem not_resets_of_introduces (h : Introduces p) : ¬ Resets p := by
  rcases h with rfl | rfl <;> decide

/-- A parameter that introduces a colour sets the foreground, if it is the one for it, and takes
what has been used of the parameters after it. -/
theorem foregroundAfter_introduces (h : Introduces p) (current : Option Rgb) (rest : List Text) :
    foregroundAfter 0 current (p :: rest) = (colourSpec rest).bind fun spec =>
      foregroundAfter 0 (if p = "38".toList then spec.rgb else current)
        (rest.drop spec.used) := by
  rw [foregroundAfter]
  simp only [foregroundAfter_skip (ColourSpec.used _)]
  exact (if_neg (not_resets_of_introduces h)).trans (if_pos h)

theorem foregroundAfter_of_spec {rest : List Text} (h : colourSpec rest = .ok spec)
    (hp : Introduces p) (current : Option Rgb) :
    foregroundAfter 0 current (p :: rest) =
      foregroundAfter 0 (if p = "38".toList then spec.rgb else current)
        (rest.drop spec.used) := by
  rw [foregroundAfter_introduces hp, h]
  rfl

theorem afterPlain_nil (current : Option Rgb) : afterPlain current [] = current := if_neg (by simp)

theorem afterPlain_cons (current : Option Rgb) (p : Text) (rest : List Text) :
    afterPlain current (p :: rest) = afterPlain (if Resets p then none else current) rest := by
  unfold afterPlain
  by_cases hp : Resets p <;> simp [hp]

/-- Parameters that introduce no colour are read one by one. -/
theorem foregroundAfter_append (h : ∀ p ∈ params, ¬ Introduces p) (current : Option Rgb)
    (rest : List Text) :
    foregroundAfter 0 current (params ++ rest) =
      foregroundAfter 0 (afterPlain current params) rest := by
  induction params generalizing current with
  | nil => rw [afterPlain_nil, List.nil_append]
  | cons p params ih =>
    obtain ⟨hp, hparams⟩ := List.forall_mem_cons.mp h
    rw [List.cons_append, afterPlain_cons, ← ih hparams]
    by_cases hresets : Resets p
    · rw [foregroundAfter_resets hresets, if_pos hresets]
    · rw [foregroundAfter_idle hresets hp, if_neg hresets]

theorem foregroundAfter_plain (h : ∀ p ∈ params, ¬ Introduces p) (current : Option Rgb) :
    foregroundAfter 0 current params = .ok (afterPlain current params) := by
  have hall := foregroundAfter_append h current []
  rwa [List.append_nil] at hall

/-- A sequence without parameters is one with a single empty parameter. -/
theorem applyForeground_splitParameters (h : IsSeparated params t)
    (hnumeric : ∀ p ∈ params, IsNumeric p) (current : Option Rgb) :
    applyForeground (splitParameters t) current = foregroundAfter 0 current params := by
  by_cases ht : t = []
  · subst ht
    rw [h.of_nil]
    rfl
  · have hsome : ¬ params.isEmpty = true := by simpa using h.ne_nil
    rw [h.splitParameters_eq hnumeric ht, applyForeground, if_neg hsome]

end Foreground

end TermPilot.Screen
