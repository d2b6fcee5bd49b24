import Mathlib.Tactic.ByContra
import Mathlib.Tactic.SplitIfs
import TermPilot.Keys.Encode

/-!
# What becomes of a key press

A key press has a text of its own, or only its code point, which the kitty protocol sends and legacy
sequences refuse, or no encoding at all. So the two families of escape sequences differ in the keys
that are sent as code points, and in nothing else.
-/

namespace TermPilot

/-- The error says that a key press has no encoding; the two others come up in place of one that
says so. -/
def KeyEncodingError.IsRefusal : KeyEncodingError → Prop
  | .lowerCaseSplits _ | .numeralTooLong _ => False
  | _ => True

theorem isWritable_of_le {number : Int} (h : number.natAbs ≤ 35) : IsWritable number := by
  have htwo : (Double.digits number.natAbs).length ≤ 2 :=
    (Nat.length_toDigits_le_iff (by decide) (by decide)).mpr (by omega)
  exact Nat.le_trans htwo (by decide)

theorem KeyEncodingError.isRefusal_naming {number : Int} {error : KeyEncodingError}
    (h : error.IsRefusal) : (naming number error).IsRefusal ↔ IsWritable number := by
  unfold naming
  split_ifs with hwritable
  · exact iff_of_true h hwritable
  · exact iff_of_false id hwritable

namespace KeyModes

/-- The modes are some that keys have encodings in. -/
structure HasEncodings (modes : KeyModes) : Prop where
  level : modes.modifyOtherKeys = none
  flags : modes.encoding = .kitty → modes.kittyFlags = 0

/-- The modes with the kitty protocol, without flags and without modified keys. -/
def asKitty (modes : KeyModes) : KeyModes :=
  { modes with encoding := .kitty, kittyFlags := 0, modifyOtherKeys := none }

/-- The modes with legacy sequences, whatever the flags are, and without modified keys. -/
def asLegacy (modes : KeyModes) : KeyModes :=
  { modes with encoding := .legacy, modifyOtherKeys := none }

theorem HasEncodings.eq_asKitty_or_asLegacy {modes : KeyModes} (h : modes.HasEncodings) :
    modes = modes.asKitty ∨ modes = modes.asLegacy := by
  obtain ⟨encoding, flags, cursor, newline, level⟩ := modes
  obtain ⟨hlevel, hflags⟩ := h
  cases encoding with
  | kitty =>
    obtain rfl : flags = 0 := hflags rfl
    obtain rfl : level = none := hlevel
    exact Or.inl rfl
  | legacy =>
    obtain rfl : level = none := hlevel
    exact Or.inr rfl

end KeyModes

namespace KeyEncoder

open Terminal

/-! ## Code points -/

/-- The text is a control sequence that ends in `u`. -/
def IsCodepointSequence (t : Text) : Prop := ∃ body, t = esc :: '[' :: (body ++ ['u'])

section Codepoint

variable {t introducer : Text} {final : String} {mods : Modifiers} {last : Char} {number : Nat}

theorem isCodepointSequence_controlSequence (parameters : String) :
    IsCodepointSequence (controlSequence parameters "u") :=
  ⟨parameters.toList, rfl⟩

theorem not_isCodepointSequence_of_length (h : t.length < 3) : ¬ IsCodepointSequence t := by
  rintro ⟨body, rfl⟩
  rw [List.length_cons, List.length_cons, List.length_append, List.length_singleton] at h
  omega

theorem not_isCodepointSequence_of_getLast? (h : t.getLast? = some last) (hlast : last ≠ 'u') :
    ¬ IsCodepointSequence t := by
  rintro ⟨body, rfl⟩
  have hend : (esc :: '[' :: (body ++ ['u'])).getLast? = some 'u' := by
    rw [← List.cons_append, ← List.cons_append, List.getLast?_concat]
  exact hlast (Option.some.inj (h.symm.trans hend))

theorem getLast?_lettered (h : final.toList = [last]) :
    (lettered introducer final mods).getLast? = some last := by
  rw [lettered, controlSequence, h]
  split_ifs
  · exact List.getLast?_concat
  · rw [← List.cons_append, ← List.cons_append, List.getLast?_concat]

theorem getLast?_numbered : (numbered number mods).getLast? = some '~' := by
  have htilde : "~".toList = ['~'] := rfl
  rw [numbered, controlSequence, controlSequence, htilde]
  split_ifs <;> rw [← List.cons_append, ← List.cons_append, List.getLast?_concat]

theorem length_altMark (mods : Modifiers) : (altMark mods).length ≤ 1 := by
  unfold altMark
  split_ifs <;> simp

/-- With the mark of Alt in front a single character is no code point. -/
theorem not_isCodepointSequence_altMark (mods : Modifiers) (c : Char) :
    ¬ IsCodepointSequence (altMark mods ++ [c]) := by
  apply not_isCodepointSequence_of_length
  have hmark := length_altMark mods
  rw [List.length_append, List.length_singleton]
  omega

end Codepoint

/-! ## Outcomes -/

/-- What becomes of a key press in the kitty protocol and with legacy sequences: a text of its own
in both, its code point in the kitty protocol only, or one of the given errors in both. -/
inductive Becomes (failures : KeyEncodingError → Prop) :
    Except KeyEncodingError Text → Except KeyEncodingError Text → Prop where
  | text {t : Text} (hne : t ≠ []) (hown : ¬ IsCodepointSequence t) :
      Becomes failures (.ok t) (.ok t)
  | codepoint {t : Text} {n : Nat} {mods : Modifiers} (h : IsCodepointSequence t) :
      Becomes failures (.ok t) (.error (.notLegacy n mods))
  | error {e : KeyEncodingError} (h : failures e) : Becomes failures (.error e) (.error e)

section Outcomes

variable {failures others : KeyEncodingError → Prop} {plain : Text} {last : Char}

theorem Becomes.mono {kitty legacy : Except KeyEncodingError Text}
    (h : Becomes failures kitty legacy) (hsub : ∀ e, failures e → others e) :
    Becomes others kitty legacy := by
  cases h with
  | text hne hown => exact .text hne hown
  | codepoint h => exact .codepoint h
  | error h => exact .error (hsub _ h)

theorem becomes_codepoint (failures : KeyEncodingError → Prop) (n : Nat) (mods : Modifiers)
    (modes : KeyModes) :
    Becomes failures (codepointSequence n mods modes.asKitty)
      (codepointSequence n mods modes.asLegacy) :=
  .codepoint (isCodepointSequence_controlSequence _)

/-- A text with another end than `u` is no code point. -/
theorem becomes_text {t : Text} (hend : t.getLast? = some last) (hlast : last ≠ 'u') :
    Becomes failures (.ok t) (.ok t) := by
  refine .text ?_ (not_isCodepointSequence_of_getLast? hend hlast)
  rintro rfl
  cases hend

theorem becomes_controlKey (hplain : plain.getLast? = some last) (hlast : last ≠ 'u') (n : Nat)
    (mods : Modifiers) (modes : KeyModes) :
    Becomes failures (controlKey plain n mods modes.asKitty)
      (controlKey plain n mods modes.asLegacy) := by
  unfold controlKey
  split_ifs with hheld
  · exact becomes_codepoint failures n mods modes
  · refine becomes_text ?_ hlast
    rw [List.getLast?_append, hplain]
    rfl

/-- A key with a name always has an encoding. -/
theorem becomes_namedKey (key : NamedKey) (mods : Modifiers) (modes : KeyModes) :
    Becomes failures (namedKey key mods modes.asKitty) (namedKey key mods modes.asLegacy) := by
  cases key with
  | up => exact becomes_text (getLast?_lettered rfl) (by decide)
  | down => exact becomes_text (getLast?_lettered rfl) (by decide)
  | right => exact becomes_text (getLast?_lettered rfl) (by decide)
  | left => exact becomes_text (getLast?_lettered rfl) (by decide)
  | home => exact becomes_text (getLast?_lettered rfl) (by decide)
  | endKey => exact becomes_text (getLast?_lettered rfl) (by decide)
  | insert => exact becomes_text getLast?_numbered (by decide)
  | delete => exact becomes_text getLast?_numbered (by decide)
  | pageUp => exact becomes_text getLast?_numbered (by decide)
  | pageDown => exact becomes_text getLast?_numbered (by decide)
  | escape => exact becomes_controlKey rfl (by decide) 27 mods modes
  | enter =>
    obtain ⟨last, hplain, hlast⟩ : ∃ last,
        (if modes.newlineMode then ['\r', '\n'] else ['\r']).getLast? = some last ∧ last ≠ 'u' := by
      cases modes.newlineMode <;> exact ⟨_, rfl, by decide⟩
    exact becomes_controlKey hplain hlast 13 mods modes
  | tab =>
    by_cases hback : (mods.shift && !mods.ctrl) = true
    · simp only [namedKey, if_pos hback]
      refine becomes_text ?_ (show 'Z' ≠ 'u' by decide)
      rw [List.getLast?_append]
      rfl
    · simp only [namedKey, if_neg hback]
      exact becomes_controlKey rfl (by decide) 9 mods modes
  | backspace =>
    by_cases hword : (mods.ctrl && !mods.shift) = true
    · simp only [namedKey, if_pos hword]
      refine becomes_text ?_ (show '\x08' ≠ 'u' by decide)
      rw [List.getLast?_append]
      rfl
    · simp only [namedKey, if_neg hword]
      exact becomes_controlKey rfl (by decide) 127 mods modes

/-- The first four function keys have letters, the next eight have numbers and those up to the last
one have code points. -/
theorem becomes_functionKey (number : Int) (mods : Modifiers) (modes : KeyModes) :
    Becomes (· = .naming number (.noFunctionKey number)) (functionKey number mods modes.asKitty)
      (functionKey number mods modes.asLegacy) := by
  unfold functionKey
  cases hfinal : functionFinal? number with
  | some final =>
    obtain ⟨last, hlast, hne⟩ : ∃ last, final.toList = [last] ∧ last ≠ 'u' := by
      unfold functionFinal? at hfinal
      split at hfinal <;> cases hfinal <;> exact ⟨_, rfl, by decide⟩
    exact becomes_text (getLast?_lettered hlast) hne
  | none =>
    cases hcode : functionCode? number with
    | some code => exact becomes_text getLast?_numbered (by decide)
    | none =>
      by_cases hrange : 13 ≤ number ∧ number ≤ lastFunctionKey
      · simp only [if_pos hrange]
        by_cases hplain : mods = {}
        · have hkitty : mods = {} ∧ modes.asKitty.encoding = .kitty := ⟨hplain, rfl⟩
          have hlegacy : ¬ (mods = {} ∧ modes.asLegacy.encoding = .kitty) := fun h => by cases h.2
          rw [if_pos hkitty, if_neg hlegacy]
          exact .codepoint (isCodepointSequence_controlSequence _)
        · rw [if_neg (fun h => hplain h.1), if_neg (fun h => hplain h.1)]
          exact becomes_codepoint _ _ mods modes
      · simp only [if_neg hrange]
        exact .error rfl

end Outcomes

/-! ## Character keys -/

section Characters

variable {c : Char}

/-- A character in no list of exceptions becomes one other character, or stays as it is. -/
theorem exists_mapCase {runs : List Text.CaseRun} {expansions : List (Nat × List Nat)}
    (h : ∀ entry ∈ expansions, entry.1 ≠ c.toNat) :
    ∃ image, Text.mapCase runs expansions c = [image] := by
  have hfind : expansions.find? (fun entry => entry.1 = c.toNat) = none := by
    rw [List.find?_eq_none]
    intro entry hentry
    simpa using h entry hentry
  unfold Text.mapCase
  simp only [hfind]
  split
  · exact ⟨_, rfl⟩
  · exact ⟨c, rfl⟩

/-- The capital I with a dot is the only character whose lower case is several characters. -/
theorem exists_lowerChar (h : c ≠ 'İ') : ∃ lowered, Text.lowerChar c = [lowered] := by
  unfold Text.lowerChar
  split_ifs with hascii
  · exact ⟨c.toLower, rfl⟩
  · refine exists_mapCase fun entry hentry hcode => h ?_
    obtain rfl := List.mem_singleton.mp hentry
    exact Char.toNat_inj.mp hcode.symm

theorem exists_controlChar? (h : c ≠ 'İ') : ∃ control, controlChar? c = .ok control := by
  obtain ⟨lowered, hlowered⟩ := exists_lowerChar h
  unfold controlChar?
  rw [hlowered]
  by_cases hletter : 'a' ≤ lowered ∧ lowered ≤ 'z'
  · exact ⟨_, if_pos hletter⟩
  · exact ⟨_, if_neg hletter⟩

theorem controlChar?_dottedI : controlChar? 'İ' = .error (.lowerCaseSplits 'İ') := rfl

/-- A character key has a text of its own, a control character or a code point. Only the capital I
with a dot is looked up in vain, if it is held with Control and without Shift. -/
theorem becomes_character (c : Char) (mods : Modifiers) (modes : KeyModes) :
    Becomes (fun e => c = 'İ' ∧ mods.ctrl = true ∧ mods.shift = false ∧ e = .lowerCaseSplits c)
      (character c mods modes.asKitty) (character c mods modes.asLegacy) := by
  have hone : ∀ c, altMark mods ++ [c] ≠ [] := fun c => by simp
  unfold character
  cases hshift : mods.shift with
  | false =>
    cases hctrl : mods.ctrl with
    | false => exact .text (hone c) (not_isCodepointSequence_altMark mods c)
    | true =>
      by_cases hc : c = 'İ'
      · -- the lower case has two characters, the first of which is a letter
        subst hc
        exact .error ⟨rfl, rfl, rfl, rfl⟩
      · obtain ⟨control, hcontrol⟩ := exists_controlChar? hc
        rw [hcontrol]
        cases control with
        | some control => exact .text (hone control) (not_isCodepointSequence_altMark mods control)
        | none => exact becomes_codepoint _ _ mods modes
  | true =>
    cases hctrl : mods.ctrl with
    | false => exact .text (hone _) (not_isCodepointSequence_altMark mods _)
    | true => exact becomes_codepoint _ _ mods modes

end Characters

/-! ## Key presses -/

/-- The error that a key press can end in when the modes have encodings. -/
inductive Fails (mods : Modifiers) : Key → KeyEncodingError → Prop where
  | function (number : Int) : Fails mods (.function number) (.naming number (.noFunctionKey number))
  | text (text : Text) : Fails mods (.char text) (.notOneCharacter text)
  | dottedI (hctrl : mods.ctrl = true) (hshift : mods.shift = false) :
      Fails mods (.char ['İ']) (.lowerCaseSplits 'İ')

/-- The modes are checked first; asked for one of the two families of sequences alone, they pass. -/
theorem becomes_standard (key : Key) (mods : Modifiers) (modes : KeyModes) :
    Becomes (Fails mods key) (standard key mods modes.asKitty)
      (standard key mods modes.asLegacy) := by
  cases key with
  | named key => exact becomes_namedKey key mods modes
  | function number =>
    refine (becomes_functionKey number mods modes).mono fun e he => ?_
    rw [he]
    exact .function number
  | char text =>
    match text with
    | [] => exact .error (.text [])
    | [c] =>
      refine (becomes_character c mods modes).mono fun e he => ?_
      obtain ⟨rfl, hctrl, hshift, rfl⟩ := he
      exact .dottedI hctrl hshift
    | c :: d :: rest => exact .error (.text (c :: d :: rest))

/-! ## Answers -/

/-- The outcome is a text that is not empty, or an error that says that there is none. -/
def IsAnswer : Except KeyEncodingError Text → Prop
  | .ok text => text ≠ []
  | .error error => error.IsRefusal

section Answers

variable {mods : Modifiers} {modes : KeyModes} {number level : Int}

theorem isAnswer_error {e : KeyEncodingError} : IsAnswer (.error e) ↔ e.IsRefusal := Iff.rfl

theorem Becomes.isAnswer {failures : KeyEncodingError → Prop}
    {kitty legacy : Except KeyEncodingError Text} (h : Becomes failures kitty legacy)
    (hrefusal : ∀ e, failures e → e.IsRefusal) : IsAnswer kitty ∧ IsAnswer legacy := by
  cases h with
  | text hne _ => exact ⟨hne, hne⟩
  | codepoint hcode =>
    obtain ⟨body, rfl⟩ := hcode
    exact ⟨List.cons_ne_nil _ _, trivial⟩
  | error he => exact ⟨hrefusal _ he, hrefusal _ he⟩

theorem standard_of_level (hlevel : modes.modifyOtherKeys = some level) (key : Key)
    (mods : Modifiers) :
    standard key mods modes = .error (.naming level (.modifyOtherKeys level)) := by
  unfold standard checkModes
  rw [hlevel]
  rfl

theorem standard_of_flags (hlevel : modes.modifyOtherKeys = none)
    (hflags : modes.encoding = .kitty ∧ modes.kittyFlags ≠ 0) (key : Key) (mods : Modifiers) :
    standard key mods modes = .error (.kittyFlags modes.kittyFlags) := by
  unfold standard checkModes
  rw [hlevel]
  simp only [if_pos hflags]
  rfl

theorem checkModes_eq_ok (h : modes.HasEncodings) : checkModes modes = .ok () := by
  rw [checkModes, h.level]
  exact if_neg fun hkitty => hkitty.2 (h.flags hkitty.1)

theorem standard_dottedI (h : modes.HasEncodings) (hctrl : mods.ctrl = true)
    (hshift : mods.shift = false) :
    standard (.char ['İ']) mods modes = .error (.lowerCaseSplits 'İ') := by
  unfold standard
  rw [checkModes_eq_ok h]
  show character 'İ' mods modes = _
  rw [character, hctrl, hshift, controlChar?_dottedI]
  rfl

/-- A number that cannot be written is not that of a function key. -/
theorem functionKey_of_not_isWritable (h : ¬ IsWritable number) (mods : Modifiers)
    (modes : KeyModes) : functionKey number mods modes = .error (.numeralTooLong number) := by
  have hfar : 35 < number.natAbs := Nat.lt_of_not_le fun hle => h (isWritable_of_le hle)
  have hfinal : functionFinal? number = none := by
    unfold functionFinal?
    split
    case h_5 => rfl
    all_goals omega
  have hcode : functionCode? number = none := by
    unfold functionCode?
    split
    case h_9 => rfl
    all_goals omega
  have hrange : ¬ (13 ≤ number ∧ number ≤ lastFunctionKey) := by
    unfold lastFunctionKey
    omega
  rw [functionKey, hfinal, hcode]
  simp only [if_neg hrange]
  exact congrArg Except.error (if_neg h)

theorem standard_function_of_not_isWritable (h : modes.HasEncodings) (hnumber : ¬ IsWritable number)
    (mods : Modifiers) :
    standard (.function number) mods modes = .error (.numeralTooLong number) := by
  unfold standard
  rw [checkModes_eq_ok h]
  exact functionKey_of_not_isWritable hnumber mods modes

/-- The modes put aside, only an error that takes the place of a refusal is no answer. -/
theorem isAnswer_iff_of_hasEncodings (h : modes.HasEncodings) (key : Key) (mods : Modifiers) :
    IsAnswer (standard key mods modes) ↔
      (∀ number, key = .function number → IsWritable number) ∧
        ¬ (key = .char ['İ'] ∧ mods.ctrl = true ∧ mods.shift = false) := by
  constructor
  · intro hanswer
    refine ⟨?_, ?_⟩
    · rintro number rfl
      by_contra hnumber
      rw [standard_function_of_not_isWritable h hnumber] at hanswer
      exact hanswer
    · rintro ⟨rfl, hctrl, hshift⟩
      rw [standard_dottedI h hctrl hshift] at hanswer
      exact hanswer
  · rintro ⟨hnumber, hdotted⟩
    have hrefusal : ∀ e, Fails mods key e → e.IsRefusal := by
      intro e he
      cases he with
      | function number =>
        have hrefusal : (KeyEncodingError.noFunctionKey number).IsRefusal := trivial
        rw [KeyEncodingError.isRefusal_naming hrefusal]
        exact hnumber number rfl
      | text => trivial
      | dottedI hctrl hshift => exact absurd ⟨rfl, hctrl, hshift⟩ hdotted
    obtain ⟨hkitty, hlegacy⟩ := (becomes_standard key mods modes).isAnswer hrefusal
    rcases h.eq_asKitty_or_asLegacy with heq | heq
    · rwa [← heq] at hkitty
    · rwa [← heq] at hlegacy

end Answers

/-- A key press is answered unless the message for it would hold a number that cannot be written, or
a capital I with a dot is held with Control and without Shift. -/
theorem standard_isAnswer_iff (key : Key) (mods : Modifiers) (modes : KeyModes) :
    IsAnswer (standard key mods modes) ↔
      (∀ level ∈ modes.modifyOtherKeys, IsWritable level) ∧
      (modes.HasEncodings → (∀ number, key = .function number → IsWritable number) ∧
        ¬ (key = .char ['İ'] ∧ mods.ctrl = true ∧ mods.shift = false)) := by
  cases hlevel : modes.modifyOtherKeys with
  | some level =>
    have hnone : ¬ modes.HasEncodings := fun h => by simp [h.level] at hlevel
    have hanswer : IsAnswer (standard key mods modes) ↔ IsWritable level := by
      have hrefusal : (KeyEncodingError.modifyOtherKeys level).IsRefusal := trivial
      rw [standard_of_level hlevel, isAnswer_error, KeyEncodingError.isRefusal_naming hrefusal]
    rw [hanswer]
    refine ⟨fun h => ⟨fun other hother => ?_, fun hmodes => absurd hmodes hnone⟩, fun h => ?_⟩
    · rwa [← Option.some.inj hother]
    · exact h.1 level rfl
  | none =>
    by_cases hflags : modes.encoding = .kitty ∧ modes.kittyFlags ≠ 0
    · rw [standard_of_flags hlevel hflags]
      exact iff_of_true trivial ⟨nofun, fun h => absurd (h.flags hflags.1) hflags.2⟩
    · have hmodes : modes.HasEncodings :=
        ⟨hlevel, fun hkitty => Decidable.by_contra fun hne => hflags ⟨hkitty, hne⟩⟩
      rw [isAnswer_iff_of_hasEncodings hmodes]
      exact ⟨fun h => ⟨nofun, fun _ => h⟩, fun h => h.2 hmodes⟩

/-- In the default modes the capital I with a dot has no answer if it is held with Control. -/
theorem standard_not_isAnswer :
    ¬ ∀ (key : Key) (mods : Modifiers) (modes : KeyModes), IsAnswer (standard key mods modes) :=
  fun h => h (.char ['İ']) { ctrl := true } {}

/-- What is sent with legacy sequences is sent in the kitty protocol as well. What is sent in the
kitty protocol is sent with legacy sequences, unless it is a code point, which these refuse. What
fails in the kitty protocol fails with legacy sequences for the same reason. -/
theorem standard_asKitty_asLegacy (key : Key) (mods : Modifiers) (modes : KeyModes) :
    (∀ text, standard key mods modes.asLegacy = .ok text →
      standard key mods modes.asKitty = .ok text) ∧
    (∀ text, standard key mods modes.asKitty = .ok text →
      (¬ IsCodepointSequence text ∧ standard key mods modes.asLegacy = .ok text) ∨
      (IsCodepointSequence text ∧
        ∃ error, standard key mods modes.asLegacy = .error error ∧ error.IsRefusal)) ∧
    ∀ error, standard key mods modes.asKitty = .error error →
      standard key mods modes.asLegacy = .error error := by
  have h := becomes_standard key mods modes
  generalize standard key mods modes.asKitty = kitty at h ⊢
  generalize standard key mods modes.asLegacy = legacy at h ⊢
  cases h with
  | text hne hown =>
    refine ⟨fun text h => h, fun text h => ?_, fun error h => h⟩
    obtain rfl := Except.ok.inj h
    exact Or.inl ⟨hown, rfl⟩
  | codepoint hcode =>
    refine ⟨nofun, fun text h => ?_, nofun⟩
    obtain rfl := Except.ok.inj h
    exact Or.inr ⟨hcode, _, rfl, trivial⟩
  | error _ => exact ⟨fun text h => h, nofun, fun error h => h⟩

end KeyEncoder

end TermPilot
