import TermPilot.Proofs.Screen.Parameters

/-!
# Encodings of colours

The first parameter 38 or 48 of a sequence introduces its colour. What is read after it, the
components with or without an empty colour space or the number in the palette, depends neither on
the parameters before and after it nor on how they are separated.
-/

namespace TermPilot.Screen

section Parse

variable {pre post params rest : List Text} {target t : Text} {spec : ColourSpec}

theorem firstColour?_eq_none (h : ∀ p ∈ params, ¬ Introduces p) : firstColour? params = none := by
  induction params with
  | nil => rfl
  | cons p params ih =>
    obtain ⟨hp, hparams⟩ := List.forall_mem_cons.mp h
    obtain ⟨hforeground, hbackground⟩ := not_or.mp hp
    rw [firstColour?, if_neg hforeground, if_neg hbackground, ih hparams]

theorem firstColour?_append (hpre : ∀ p ∈ pre, ¬ Introduces p) (htarget : Introduces target)
    (rest : List Text) :
    firstColour? (pre ++ target :: rest) = some (decide (target = "38".toList), rest) := by
  induction pre with
  | nil =>
    rcases htarget with rfl | rfl <;> rfl
  | cons p pre ih =>
    obtain ⟨hp, hpre⟩ := List.forall_mem_cons.mp hpre
    obtain ⟨hforeground, hbackground⟩ := not_or.mp hp
    rw [List.cons_append, firstColour?, if_neg hforeground, if_neg hbackground, ih hpre]

/-- A sequence without parameters introduces no colour, like a single empty parameter. -/
theorem IsSeparated.firstColour?_eq (h : IsSeparated params t)
    (hnumeric : ∀ p ∈ params, IsNumeric p) :
    firstColour? (splitParameters t) = firstColour? params := by
  by_cases ht : t = []
  · subst ht
    rw [h.of_nil]
    rfl
  · rw [h.splitParameters_eq hnumeric ht]

theorem IsSeparated.parse_eq (h : IsSeparated params t) (hnumeric : ∀ p ∈ params, IsNumeric p) :
    Colour.parse (sgrSequence t) = match firstColour? params with
      | none => .ok none
      | some (foreground, rest) => (colourSpec rest).map fun spec =>
        some ⟨sgrSequence t, foreground, spec.rgb, spec.palette⟩ := by
  rw [Colour.parse, sgrParameters?_sgr (h.isParameters hnumeric), Option.bind_some,
    h.firstColour?_eq hnumeric]
  cases firstColour? params with
  | none => rfl
  | some found =>
    obtain ⟨foreground, rest⟩ := found
    cases colourSpec rest <;> rfl

theorem IsSeparated.parse_of_spec (h : IsSeparated (pre ++ target :: rest) t)
    (hpre : ∀ p ∈ pre, IsNumeric p ∧ ¬ Introduces p) (htarget : Introduces target)
    (hrest : ∀ p ∈ rest, IsNumeric p) (hspec : colourSpec rest = .ok spec) :
    Colour.parse (sgrSequence t) = .ok (some
      ⟨sgrSequence t, decide (target = "38".toList), spec.rgb, spec.palette⟩) := by
  have hfound : firstColour? (pre ++ target :: rest) =
      some (decide (target = "38".toList), rest) :=
    firstColour?_append (fun p hp => (hpre p hp).2) htarget rest
  have hnumeric : ∀ p ∈ pre ++ target :: rest, IsNumeric p := by
    intro p hp
    rcases List.mem_append.mp hp with hp | hp
    · exact (hpre p hp).1
    rcases List.mem_cons.mp hp with rfl | hp
    · rcases htarget with rfl | rfl <;> decide
    · exact hrest p hp
  rw [h.parse_eq hnumeric, hfound]
  dsimp only
  rw [hspec]
  rfl

end Parse

/-- Behind parameters of which none introduces a colour, every encoding of a colour is read,
whatever follows it; and if no parameter introduces a colour there is none. -/
theorem parse_encodings {pre post : List Text} {target : Text} {red green blue index : Component}
    (hpre : ∀ p ∈ pre, IsNumeric p ∧ ¬ Introduces p) (hpost : ∀ p ∈ post, IsNumeric p)
    (htarget : target = "38".toList ∨ target = "48".toList)
    (hred : red.IsShort) (hgreen : green.IsShort) (hblue : blue.IsShort) (hindex : index.IsShort) :
    (∀ t, IsSeparated (pre ++ target :: ['2'] :: red.digits :: green.digits :: blue.digits :: post)
        t →
      Colour.parse (sgrSequence t) = .ok (some ⟨sgrSequence t, decide (target = "38".toList),
        some (Rgb.ofComponents red green blue), none⟩)) ∧
    (∀ t, IsSeparated
        (pre ++ target :: ['2'] :: [] :: red.digits :: green.digits :: blue.digits :: post) t →
      Colour.parse (sgrSequence t) = .ok (some ⟨sgrSequence t, decide (target = "38".toList),
        some (Rgb.ofComponents red green blue), none⟩)) ∧
    (∀ t, IsSeparated (pre ++ target :: ['5'] :: index.digits :: post) t →
      Colour.parse (sgrSequence t) = .ok (some ⟨sgrSequence t, decide (target = "38".toList),
        none, some index.value⟩)) ∧
    ∀ t, IsSeparated pre t → Colour.parse (sgrSequence t) = .ok none := by
  have hempty : IsNumeric [] := fun c hc => absurd hc List.not_mem_nil
  have hcomponents : ∀ p ∈ red.digits :: green.digits :: blue.digits :: post, IsNumeric p := by
    simp only [List.forall_mem_cons]
    exact ⟨red.isNumeric, green.isNumeric, blue.isNumeric, hpost⟩
  refine ⟨fun t h => ?_, fun t h => ?_, fun t h => ?_, fun t h => ?_⟩
  · exact h.parse_of_spec hpre htarget (List.forall_mem_cons.mpr ⟨by decide, hcomponents⟩)
      (colourSpec_components hred hgreen hblue post)
  · exact h.parse_of_spec hpre htarget
      (List.forall_mem_cons.mpr ⟨by decide, List.forall_mem_cons.mpr ⟨hempty, hcomponents⟩⟩)
      (colourSpec_spaced hred hgreen hblue post)
  · exact h.parse_of_spec hpre htarget
      (List.forall_mem_cons.mpr ⟨by decide, List.forall_mem_cons.mpr ⟨index.isNumeric, hpost⟩⟩)
      (colourSpec_palette hindex post)
  · rw [h.parse_eq fun p hp => (hpre p hp).1, firstColour?_eq_none fun p hp => (hpre p hp).2]

/-- A component with zeros in front. -/
def paddedComponent : Component := ⟨"0007".toList, by decide, by decide⟩

/-- A component of 255. -/
def greatestComponent : Component := ⟨"255".toList, by decide, by decide⟩

theorem parse_encodings_mixedSeparators :
    (∀ p ∈ ["1".toList, []], IsNumeric p ∧ ¬ Introduces p) ∧
    (∀ p ∈ [[], "38".toList], IsNumeric p) ∧
    paddedComponent.IsShort ∧ greatestComponent.IsShort ∧
    Colour.parse "\x1b[1;:48;2:0007;255:255;:38m".toList = .ok (some
      ⟨"\x1b[1;:48;2:0007;255:255;:38m".toList, false, some ⟨7, 255, 255⟩, none⟩) ∧
    Colour.parse "\x1b[1;:48:2::0007;255:255;:38m".toList = .ok (some
      ⟨"\x1b[1;:48:2::0007;255:255;:38m".toList, false, some ⟨7, 255, 255⟩, none⟩) ∧
    Colour.parse "\x1b[1;:48;5:0007;:38m".toList = .ok (some
      ⟨"\x1b[1;:48;5:0007;:38m".toList, false, none, some 7⟩) ∧
    Colour.parse "\x1b[1:m".toList = .ok none := by
  have hpre : ∀ p ∈ ["1".toList, []], IsNumeric p ∧ ¬ Introduces p := by decide
  have hpost : ∀ p ∈ [[], "38".toList], IsNumeric p := by decide
  have hpadded : paddedComponent.IsShort := by decide
  have hgreatest : greatestComponent.IsShort := by decide
  obtain ⟨hplain, hspaced, hpalette, hnone⟩ :=
    parse_encodings hpre hpost (Or.inr rfl) hpadded hgreatest hgreatest hpadded
  have hsemicolon : (';' : Char) = ';' ∨ (';' : Char) = ':' := Or.inl rfl
  have hcolon : (':' : Char) = ';' ∨ (':' : Char) = ':' := Or.inr rfl
  have hend : IsSeparated [[], "38".toList] ":38".toList := .cons [] hcolon (.single _)
  have hcomponents : IsSeparated ["0007".toList, "255".toList, "255".toList, [], "38".toList]
      "0007;255:255;:38".toList :=
    .cons "0007".toList hsemicolon
      (.cons "255".toList hcolon (.cons "255".toList hsemicolon hend))
  refine ⟨hpre, hpost, hpadded, hgreatest, ?_, ?_, ?_, ?_⟩
  · exact hplain _ (.cons "1".toList hsemicolon (.cons [] hcolon
      (.cons "48".toList hsemicolon (.cons ['2'] hcolon hcomponents))))
  · exact hspaced _ (.cons "1".toList hsemicolon (.cons [] hcolon
      (.cons "48".toList hcolon (.cons ['2'] hcolon (.cons [] hcolon hcomponents)))))
  · exact hpalette _ (.cons "1".toList hsemicolon (.cons [] hcolon
      (.cons "48".toList hsemicolon (.cons ['5'] hcolon (.cons "0007".toList hsemicolon hend)))))
  · exact hnone _ (.cons "1".toList hcolon (.single []))

end TermPilot.Screen
