import TermPilot.Proofs.Screen.Parameters

/-!
# Two spellings of a foreground

The components of a foreground may have an empty colour space in front of them. They are read in
either case, but behind an empty colour space the last of them is read once more, as a parameter of
its own. So the two spellings mean the same exactly if that parameter changes nothing.
-/

namespace TermPilot.Screen

/-- The parameters of a foreground with the given components. -/
def plainSpelling (red green blue : Component) : List Text :=
  ["38".toList, ['2'], red.digits, green.digits, blue.digits]

/-- The same with an empty colour space in front of the components. -/
def spacedSpelling (red green blue : Component) : List Text :=
  ["38".toList, ['2'], [], red.digits, green.digits, blue.digits]

/-- Where a colour is the foreground, a parameter in front of others that introduce no colour comes
to the same as they alone. One that resets the foreground does if another does so after it, and one
that introduces a colour does if the colour that it takes from the others, or the reset that it
takes from them, makes no difference. -/
def IsHarmless (colour : Rgb) (p : Text) (post : List Text) : Prop :=
  (Resets p → ∃ q ∈ post, Resets q) ∧
    (Introduces p → ∃ spec, colourSpec post = .ok spec ∧
      afterPlain (if p = "38".toList then spec.rgb else some colour) (post.drop spec.used) =
        afterPlain (some colour) post)

section Spelling

variable {red green blue : Component} {pre post : List Text} {p : Text} {colour : Rgb}

theorem afterPlain_none (params : List Text) : afterPlain none params = none := by
  unfold afterPlain
  split <;> rfl

theorem afterPlain_some_eq_none_iff :
    afterPlain (some colour) post = none ↔ ∃ q ∈ post, Resets q := by
  unfold afterPlain
  split
  · next h => exact iff_of_true rfl h
  · next h => exact iff_of_false (Option.some_ne_none colour) h

theorem foregroundAfter_eq_iff_isHarmless (hpost : ∀ q ∈ post, ¬ Introduces q) :
    foregroundAfter 0 (some colour) (p :: post) = .ok (afterPlain (some colour) post) ↔
      IsHarmless colour p post := by
  by_cases hresets : Resets p
  · have hintroduces : ¬ Introduces p := fun h => not_resets_of_introduces h hresets
    rw [foregroundAfter_resets hresets, foregroundAfter_plain hpost, afterPlain_none,
      Except.ok.injEq, eq_comm, afterPlain_some_eq_none_iff]
    exact ⟨fun h => ⟨fun _ => h, fun hp => absurd hp hintroduces⟩, fun h => h.1 hresets⟩
  by_cases hintroduces : Introduces p
  · rw [foregroundAfter_introduces hintroduces]
    cases hspec : colourSpec post with
    | error error =>
      refine iff_of_false (fun h => nomatch h) ?_
      rintro ⟨-, h⟩
      obtain ⟨spec, hother, -⟩ := h hintroduces
      exact nomatch hspec.symm.trans hother
    | ok spec =>
      have hrest : ∀ q ∈ post.drop spec.used, ¬ Introduces q :=
        fun q hq => hpost q (List.mem_of_mem_drop hq)
      have hread : ((Except.ok spec : Except NumeralError ColourSpec).bind fun spec =>
            foregroundAfter 0 (if p = "38".toList then spec.rgb else some colour)
              (post.drop spec.used)) =
          .ok (afterPlain (if p = "38".toList then spec.rgb else some colour)
            (post.drop spec.used)) := foregroundAfter_plain hrest _
      rw [hread, Except.ok.injEq]
      constructor
      · exact fun h => ⟨fun hp => absurd hp hresets, fun _ => ⟨spec, hspec, h⟩⟩
      · rintro ⟨-, h⟩
        obtain ⟨other, hother, hsame⟩ := h hintroduces
        rw [hspec] at hother
        cases hother
        exact hsame
  · rw [foregroundAfter_idle hresets hintroduces, foregroundAfter_plain hpost]
    exact iff_of_true rfl ⟨fun h => absurd h hresets, fun h => absurd h hintroduces⟩

variable (hred : red.IsShort) (hgreen : green.IsShort) (hblue : blue.IsShort)

include hred hgreen hblue

theorem applyForeground_plainSpelling (hpre : ∀ q ∈ pre, ¬ Introduces q) (post : List Text)
    (current : Option Rgb) :
    applyForeground (pre ++ plainSpelling red green blue ++ post) current =
      foregroundAfter 0 (some (Rgb.ofComponents red green blue)) post := by
  have hspec : colourSpec (['2'] :: red.digits :: green.digits :: blue.digits :: post) =
      .ok ⟨some (Rgb.ofComponents red green blue), none, 4⟩ :=
    colourSpec_components hred hgreen hblue post
  have hsome : ¬ (pre ++ plainSpelling red green blue ++ post).isEmpty = true := by
    simp [plainSpelling]
  rw [applyForeground, if_neg hsome, List.append_assoc, foregroundAfter_append hpre]
  exact foregroundAfter_of_spec hspec (Or.inl rfl) _

/-- Behind an empty colour space the last component is read once more. -/
theorem applyForeground_spacedSpelling (hpre : ∀ q ∈ pre, ¬ Introduces q) (post : List Text)
    (current : Option Rgb) :
    applyForeground (pre ++ spacedSpelling red green blue ++ post) current =
      foregroundAfter 0 (some (Rgb.ofComponents red green blue)) (blue.digits :: post) := by
  have hspec : colourSpec (['2'] :: [] :: red.digits :: green.digits :: blue.digits :: post) =
      .ok ⟨some (Rgb.ofComponents red green blue), none, 4⟩ :=
    colourSpec_spaced hred hgreen hblue post
  have hsome : ¬ (pre ++ spacedSpelling red green blue ++ post).isEmpty = true := by
    simp [spacedSpelling]
  rw [applyForeground, if_neg hsome, List.append_assoc, foregroundAfter_append hpre]
  exact foregroundAfter_of_spec hspec (Or.inl rfl) _

/-- The spellings agree exactly if the last component, read once more, is harmless. -/
theorem spellings_agree_iff (hpre : ∀ q ∈ pre, ¬ Introduces q) (hpost : ∀ q ∈ post, ¬ Introduces q)
    (current : Option Rgb) :
    applyForeground (pre ++ spacedSpelling red green blue ++ post) current =
        applyForeground (pre ++ plainSpelling red green blue ++ post) current ↔
      IsHarmless (Rgb.ofComponents red green blue) blue.digits post := by
  rw [applyForeground_spacedSpelling hred hgreen hblue hpre,
    applyForeground_plainSpelling hred hgreen hblue hpre, foregroundAfter_plain hpost]
  exact foregroundAfter_eq_iff_isHarmless hpost

end Spelling

/-! ## Harmless components -/

section Harmless

variable {p : Text} {post : List Text}

/-- In front of nothing a parameter that introduces a background is harmless. -/
theorem isHarmless_nil_iff (colour : Rgb) :
    IsHarmless colour p [] ↔ ¬ Resets p ∧ p ≠ "38".toList := by
  constructor
  · rintro ⟨hresets, hintroduces⟩
    refine ⟨fun hp => ?_, ?_⟩
    · obtain ⟨q, hq, -⟩ := hresets hp
      exact List.not_mem_nil hq
    · rintro rfl
      obtain ⟨spec, hspec, hsame⟩ := hintroduces (Or.inl rfl)
      cases hspec
      rw [if_pos rfl, List.drop_nil, afterPlain_nil, afterPlain_nil] at hsame
      cases hsame
  · rintro ⟨hresets, hforeground⟩
    refine ⟨fun hp => absurd hp hresets, fun _ => ⟨⟨none, none, 0⟩, rfl, ?_⟩⟩
    rw [if_neg hforeground, List.drop_nil]

/-- In front of a reset it is not, since it takes the reset for the model of the background. -/
theorem not_isHarmless_background (colour : Rgb) :
    ¬ IsHarmless colour "48".toList [['0']] := by
  rintro ⟨-, hintroduces⟩
  obtain ⟨spec, hspec, hsame⟩ := hintroduces (Or.inr rfl)
  have hother : colourSpec [['0']] = .ok ⟨none, none, 1⟩ :=
    colourSpec_other (by decide) (by decide) []
  rw [hother] at hspec
  cases hspec
  rw [if_neg (by decide), List.drop_one, List.tail_cons, afterPlain_nil, afterPlain_cons,
    if_pos (by decide), afterPlain_none] at hsame
  cases hsame

theorem Component.isHarmless_nil_iff (c : Component) (colour : Rgb) :
    IsHarmless colour c.digits [] ↔
      c.digits ∉ ["0".toList, "38".toList, "39".toList] := by
  have hempty := c.digits_ne_nil
  simp only [Screen.isHarmless_nil_iff, Resets, hempty, false_or, List.mem_cons,
    List.not_mem_nil, or_false, not_or]
  tauto

theorem Component.forall_isHarmless_iff (c : Component) (colour : Rgb) :
    (∀ post, (∀ q ∈ post, ¬ Introduces q) → IsHarmless colour c.digits post) ↔
      c.digits ∉ ["0".toList, "38".toList, "39".toList, "48".toList] := by
  have hsplit : c.digits ∉ ["0".toList, "38".toList, "39".toList, "48".toList] ↔
      c.digits ∉ ["0".toList, "38".toList, "39".toList] ∧ c.digits ≠ "48".toList := by
    simp only [List.mem_cons, List.not_mem_nil, or_false, not_or]
    tauto
  rw [hsplit, ← c.isHarmless_nil_iff colour]
  constructor
  · intro h
    refine ⟨h [] (by simp), fun hbackground => ?_⟩
    have hreset := h [['0']] (by decide)
    rw [hbackground] at hreset
    exact not_isHarmless_background colour hreset
  · rintro ⟨hnil, hbackground⟩ post -
    obtain ⟨hresets, hforeground⟩ := (Screen.isHarmless_nil_iff colour).mp hnil
    exact ⟨fun hp => absurd hp hresets,
      fun hp => hp.elim (fun h => absurd h hforeground) fun h => absurd h hbackground⟩

end Harmless

/-! ## When the spellings agree -/

/-- A foreground with an empty colour space means the same as one without exactly if its last
component is harmless in front of what follows: in front of whatever follows if it is not written as
0, 38, 39 or 48, and in front of nothing if it is not written as 0, 38 or 39. -/
theorem spellings_agree {red green blue : Component} (hred : red.IsShort) (hgreen : green.IsShort)
    (hblue : blue.IsShort) :
    (∀ pre post current, (∀ p ∈ pre, ¬ Introduces p) → (∀ p ∈ post, ¬ Introduces p) →
      applyForeground (pre ++ plainSpelling red green blue ++ post) current =
          .ok (afterPlain (some (Rgb.ofComponents red green blue)) post) ∧
        (applyForeground (pre ++ spacedSpelling red green blue ++ post) current =
            applyForeground (pre ++ plainSpelling red green blue ++ post) current ↔
          IsHarmless (Rgb.ofComponents red green blue) blue.digits post)) ∧
    ((∀ pre post current, (∀ p ∈ pre, ¬ Introduces p) → (∀ p ∈ post, ¬ Introduces p) →
      applyForeground (pre ++ spacedSpelling red green blue ++ post) current =
        applyForeground (pre ++ plainSpelling red green blue ++ post) current) ↔
      blue.digits ∉ ["0".toList, "38".toList, "39".toList, "48".toList]) ∧
    ∀ pre current, (∀ p ∈ pre, ¬ Introduces p) →
      (applyForeground (pre ++ spacedSpelling red green blue ++ []) current =
          .ok (some (Rgb.ofComponents red green blue)) ↔
        blue.digits ∉ ["0".toList, "38".toList, "39".toList]) := by
  have hnone : ∀ q ∈ ([] : List Text), ¬ Introduces q := by simp
  refine ⟨fun pre post current hpre hpost => ⟨?_, ?_⟩, ?_, fun pre current hpre => ?_⟩
  · rw [applyForeground_plainSpelling hred hgreen hblue hpre, foregroundAfter_plain hpost]
  · exact spellings_agree_iff hred hgreen hblue hpre hpost current
  · rw [← blue.forall_isHarmless_iff (Rgb.ofComponents red green blue)]
    constructor
    · intro h post hpost
      exact (spellings_agree_iff hred hgreen hblue hnone hpost none).mp (h [] post none hnone hpost)
    · intro h pre post current hpre hpost
      exact (spellings_agree_iff hred hgreen hblue hpre hpost current).mpr (h post hpost)
  · have hplain : afterPlain (some (Rgb.ofComponents red green blue)) [] =
        some (Rgb.ofComponents red green blue) := afterPlain_nil _
    rw [applyForeground_spacedSpelling hred hgreen hblue hpre,
      ← blue.isHarmless_nil_iff (Rgb.ofComponents red green blue),
      ← foregroundAfter_eq_iff_isHarmless hnone, hplain]

theorem spellings_agree_lastBackground :
    (∀ p ∈ ["1".toList], ¬ Introduces p) ∧ (∀ p ∈ ["7".toList, "0".toList], ¬ Introduces p) ∧
    (Component.ofByte 10 (by decide)).IsShort ∧ (Component.ofByte 20 (by decide)).IsShort ∧
    (Component.ofByte 48 (by decide)).IsShort ∧
    applyForeground (["1".toList] ++ plainSpelling (.ofByte 10 (by decide))
        (.ofByte 20 (by decide)) (.ofByte 48 (by decide)) ++ ["7".toList, "0".toList]) none =
      .ok none ∧
    applyForeground (["1".toList] ++ spacedSpelling (.ofByte 10 (by decide))
        (.ofByte 20 (by decide)) (.ofByte 48 (by decide)) ++ []) none =
      .ok (some ⟨10, 20, 48⟩) := by
  have hpre : ∀ p ∈ ["1".toList], ¬ Introduces p := by decide
  have hpost : ∀ p ∈ ["7".toList, "0".toList], ¬ Introduces p := by decide
  have hred := Component.isShort_ofByte (n := 10) (by decide)
  have hgreen := Component.isShort_ofByte (n := 20) (by decide)
  have hblue := Component.isShort_ofByte (n := 48) (by decide)
  obtain ⟨hagree, -, hlast⟩ := spellings_agree hred hgreen hblue
  exact ⟨hpre, hpost, hred, hgreen, hblue, (hagree _ _ none hpre hpost).1,
    (hlast _ none hpre).mpr (by decide)⟩

/-- A last component of zero is taken for a reset. -/
theorem spellings_disagree :
    ¬ ∀ (pre post : List Text) (current : Option Rgb) (red green blue : Component),
      red.IsShort → green.IsShort → blue.IsShort → (∀ p ∈ pre, ¬ Introduces p) →
      (∀ p ∈ post, ¬ Introduces p) →
      applyForeground (pre ++ spacedSpelling red green blue ++ post) current =
        applyForeground (pre ++ plainSpelling red green blue ++ post) current := by
  intro h
  have hagree := h [] [] none (.ofByte 1 (by decide)) (.ofByte 2 (by decide))
    (.ofByte 0 (by decide)) (by decide) (by decide) (by decide) (by decide) (by decide)
  revert hagree
  decide

end TermPilot.Screen
