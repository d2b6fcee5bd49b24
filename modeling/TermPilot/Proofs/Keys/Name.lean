import TermPilot.Keys.Typing
import TermPilot.Proofs.Recording.Payload

/-!
# Names that cannot be looked up

A name of a key either stands for a key press or stands for none, with one exception: a function key
whose number has more digits than can be read as a number. Looking up such a name fails.
-/

namespace TermPilot

open Recording (Fails TooLong not_fails_ok fails_error fails_bind fails_bind_of_total
  fails_plain_iff)

namespace KeyPress

/-- After its marks the name is the letter of the function keys with a number of too many digits. -/
def HasOverlongNumber (name : Text) : Prop :=
  ∃ letter digits, (cutMarks {} name).2 = letter :: digits ∧ (letter = 'f' ∨ letter = 'F') ∧
    TooLong digits

theorem length_le_of_ofWord? {word : Text} {key : Key} (h : Key.ofWord? word = some key) :
    word.length ≤ 9 := by
  obtain ⟨known, hentry, rfl⟩ := Text.exists_word_of_find? h
  have hall : ∀ entry ∈ Key.words, entry.1.toList.length ≤ 9 := by decide
  exact hall (known, key) hentry

theorem fails_functionNumber?_iff {letter : Char} {digits : Text} :
    Fails (functionNumber? (letter :: digits)) ↔
      (letter = 'f' ∨ letter = 'F') ∧ TooLong digits := by
  unfold functionNumber? TooLong
  by_cases hnumeral : (letter = 'f' ∨ letter = 'F') ∧ Text.isNumeral digits = true
  · simp only [if_pos hnumeral]
    refine (fails_bind_of_total fun number => not_fails_ok _).trans (fails_plain_iff.trans ?_)
    exact ⟨fun hlong => ⟨hnumeral.1, hnumeral.2, hlong⟩, fun h => h.2.2⟩
  · simp only [if_neg hnumeral]
    refine iff_of_false (not_fails_ok none) ?_
    rintro ⟨hletter, hdigits, -⟩
    exact hnumeral ⟨hletter, hdigits⟩

/-- A name can be looked up unless it has an overlong number. -/
theorem fails_ofName?_iff {name : Text} : Fails (ofName? name) ↔ HasOverlongNumber name := by
  unfold ofName? HasOverlongNumber
  rcases cutMarks {} name with ⟨mods, base⟩
  -- a base with an overlong number is longer than every word
  have hlength : ∀ {letter digits}, base = letter :: digits → TooLong digits →
      4300 < base.length := by
    rintro letter digits rfl ⟨-, hlong⟩
    exact Nat.lt_succ_of_lt hlong
  cases hword : Key.ofWord? base with
  | some key =>
    simp only [hword]
    refine iff_of_false (not_fails_ok _) ?_
    rintro ⟨letter, digits, hbase, -, hlong⟩
    have := length_le_of_ofWord? hword
    have := hlength hbase hlong
    omega
  | none =>
    simp only [hword]
    match base with
    | [] =>
      refine iff_of_false (not_fails_ok _) ?_
      rintro ⟨letter, digits, hbase, -⟩
      cases hbase
    | [c] =>
      refine iff_of_false (not_fails_ok _) ?_
      rintro ⟨letter, digits, hbase, -, hlong⟩
      have := hlength hbase hlong
      simp at this
    | letter :: digit :: rest =>
      refine (fails_bind_of_total fun number => not_fails_ok _).trans ?_
      rw [fails_functionNumber?_iff]
      simp

end KeyPress

namespace Typing

section EncodeName

variable {encoder : KeyEncoder} {modes : KeyModes} {name : Text}

/-- The encoding of the key press that a name stands for, if it stands for one that has one. -/
def keyText? (encoder : KeyEncoder) (modes : KeyModes) (name : Text) : Option Text :=
  match KeyPress.ofName? name with
  | .ok (some press) => (encoder press.key press.mods modes).toOption
  | _ => none

/-- The encodings of the names that stand for key presses, in order. -/
def keyTexts (encoder : KeyEncoder) (modes : KeyModes) (names : List Text) : List Text :=
  names.filterMap (keyText? encoder modes)

/-- The encoder does not fail on the key press that a name stands for. -/
def Accepts (encoder : KeyEncoder) (modes : KeyModes) (name : Text) : Prop :=
  ∀ press, KeyPress.ofName? name = .ok (some press) → ¬ Fails (encoder press.key press.mods modes)

instance : Decidable (Accepts encoder modes name) :=
  match h : KeyPress.ofName? name with
  | .ok (some press) =>
    decidable_of_iff (¬ Fails (encoder press.key press.mods modes)) (by simp [Accepts, h])
  | .ok none => isTrue (by simp [Accepts, h])
  | .error error => isTrue (by simp [Accepts, h])

theorem keyTexts_cons (name : Text) (names : List Text) :
    keyTexts encoder modes (name :: names) =
      (keyText? encoder modes name).toList ++ keyTexts encoder modes names := by
  rw [keyTexts, List.filterMap_cons]
  cases keyText? encoder modes name <;> rfl

theorem toOption_encodeName :
    (encodeName encoder modes name).toOption.join = keyText? encoder modes name := by
  unfold encodeName keyText?
  cases KeyPress.ofName? name with
  | error error => rfl
  | ok press =>
    cases press with
    | none => rfl
    | some press =>
      simp only
      cases encoder press.key press.mods modes with
      | error error => rfl
      | ok text => rfl

theorem encodeName_eq_ok {found : Option Text}
    (h : encodeName encoder modes name = .ok found) : keyText? encoder modes name = found := by
  rw [← toOption_encodeName, h]
  rfl

/-- With an encoder that does not fail, only looking up the name can fail. -/
theorem fails_encodeName_iff (h : Accepts encoder modes name) :
    Fails (encodeName encoder modes name) ↔ KeyPress.HasOverlongNumber name := by
  rw [← KeyPress.fails_ofName?_iff]
  unfold encodeName
  cases hname : KeyPress.ofName? name with
  | error error => exact iff_of_true (fails_error _) (fails_error _)
  | ok press =>
    refine iff_of_false ?_ (not_fails_ok _)
    cases press with
    | none => exact not_fails_ok _
    | some press =>
      have haccepts := h press hname
      simp only
      cases hencoded : encoder press.key press.mods modes with
      | error error => rw [hencoded] at haccepts; exact absurd (fails_error error) haccepts
      | ok text => exact not_fails_ok _

end EncodeName

end Typing

theorem KeyPress.HasOverlongNumber.accepts {name : Text} (h : HasOverlongNumber name)
    (encoder : KeyEncoder) (modes : KeyModes) : Typing.Accepts encoder modes name := by
  intro press hpress
  have hfails : Fails (ofName? name) := fails_ofName?_iff.mpr h
  rw [hpress] at hfails
  exact absurd hfails (not_fails_ok _)

end TermPilot
