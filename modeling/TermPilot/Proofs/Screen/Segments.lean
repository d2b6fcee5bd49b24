import TermPilot.Proofs.Screen.Pieces

/-!
# Whole escape sequences

The grammar of the four kinds of escape sequences, each with its end. A whole sequence is cut off a
dump as it is, whatever follows it, so that a text made of characters and of whole sequences shows
its characters and nothing else.
-/

namespace TermPilot.Screen

open Terminal

/-! ## The grammar -/

/-- The terminator of a string command. -/
def stringEnd : Text := [esc, '\\']

/-- A whole escape sequence after its escape character. -/
inductive IsSequence : Text → Prop where
  /-- A control sequence with its final character. -/
  | control {parameters intermediates : Text} {final : Char}
      (hp : ∀ c ∈ parameters, isParameter c = true)
      (hi : ∀ c ∈ intermediates, isIntermediate c = true) (hf : isFinal final = true) :
      IsSequence ('[' :: (parameters ++ (intermediates ++ [final])))
  /-- An operating system command, ended by a bell or a terminator. -/
  | command {body ending : Text} (hb : ∀ c ∈ body, inCommand c = true)
      (he : ending = ['\x07'] ∨ ending = stringEnd) : IsSequence (']' :: (body ++ ending))
  /-- Another string command, ended by a terminator. -/
  | string {c : Char} {body : Text} (hc : StartsString c) (hb : ∀ c ∈ body, inString c = true) :
      IsSequence (c :: (body ++ stringEnd))
  /-- A short sequence, whose first character starts none of the others. -/
  | short {intermediates : Text} {final : Char}
      (hi : ∀ c ∈ intermediates, isIntermediate c = true) (hf : isShortFinal final = true)
      (hstart : intermediates = [] → final ≠ '[' ∧ final ≠ ']' ∧ ¬ StartsString final) :
      IsSequence (intermediates ++ [final])

/-- A text that is made of characters and of whole escape sequences. -/
inductive IsWhole : Text → Prop where
  /-- The empty text. -/
  | nil : IsWhole []
  /-- A character in front of such a text. -/
  | char {c : Char} {rest : Text} (hc : c ≠ esc) (h : IsWhole rest) : IsWhole (c :: rest)
  /-- An escape sequence in front of such a text. -/
  | sequence {body rest : Text} (hb : IsSequence body) (h : IsWhole rest) :
    IsWhole (esc :: (body ++ rest))

/-! ## Sequences in front of a text -/

section Lengths

variable {p : Char → Bool} {run rest : Text} {c : Char}

theorem takeWhile_run (hrun : ∀ c ∈ run, p c = true) (hc : p c = false) :
    (run ++ c :: rest).takeWhile p = run := by
  rw [List.takeWhile_append_of_pos hrun, List.takeWhile_cons_of_neg (by simp [hc]),
    List.append_nil]

theorem dropWhile_run (hrun : ∀ c ∈ run, p c = true) (hc : p c = false) :
    (run ++ c :: rest).dropWhile p = c :: rest := by
  rw [List.dropWhile_append_of_pos hrun, List.dropWhile_cons_of_neg (by simp [hc])]

/-- Neither the intermediate nor the final characters are parameters. -/
theorem not_isParameter (h : isIntermediate c = true ∨ isFinal c = true) :
    isParameter c = false := by
  simp only [isIntermediate, isFinal, between, Bool.and_eq_true, decide_eq_true_eq] at h
  simp only [isParameter, between, Bool.and_eq_false_iff, decide_eq_false_iff_not]
  omega

theorem not_isIntermediate (h : isFinal c = true ∨ isShortFinal c = true) :
    isIntermediate c = false := by
  simp only [isFinal, isShortFinal, between, Bool.and_eq_true, decide_eq_true_eq] at h
  simp only [isIntermediate, between, Bool.and_eq_false_iff, decide_eq_false_iff_not]
  omega

theorem controlLength?_whole {parameters intermediates : Text} {final : Char}
    (hp : ∀ c ∈ parameters, isParameter c = true)
    (hi : ∀ c ∈ intermediates, isIntermediate c = true) (hf : isFinal final = true)
    (rest : Text) :
    controlLength? (parameters ++ (intermediates ++ final :: rest)) =
      some (parameters.length + intermediates.length + 1) := by
  have hfinal : isIntermediate final = false := not_isIntermediate (Or.inl hf)
  -- the parameters end at the first intermediate character, or at the final one
  obtain ⟨c, later, hlater, hc⟩ : ∃ c later, intermediates ++ final :: rest = c :: later ∧
      isParameter c = false := by
    cases intermediates with
    | nil => exact ⟨final, rest, rfl, not_isParameter (Or.inr hf)⟩
    | cons c later =>
      have hc := hi c List.mem_cons_self
      exact ⟨c, later ++ final :: rest, rfl, not_isParameter (Or.inl hc)⟩
  have hparameters : (parameters ++ (intermediates ++ final :: rest)).takeWhile isParameter =
      parameters := by
    rw [hlater]
    exact takeWhile_run hp hc
  have hafter : (parameters ++ (intermediates ++ final :: rest)).dropWhile isParameter =
      intermediates ++ final :: rest := by
    rw [hlater]
    exact dropWhile_run hp hc
  simp only [controlLength?, hparameters, hafter, takeWhile_run hi hfinal, dropWhile_run hi hfinal,
    finishedLength?, hf, if_true]

theorem commandLength_whole {body ending : Text} (hb : ∀ c ∈ body, inCommand c = true)
    (he : ending = ['\x07'] ∨ ending = stringEnd) (rest : Text) :
    commandLength (body ++ (ending ++ rest)) = body.length + ending.length := by
  rcases he with rfl | rfl
  · rw [commandLength_eq, List.singleton_append, takeWhile_run hb (by decide),
      dropWhile_run hb (by decide)]
    rfl
  · rw [commandLength_eq, stringEnd, List.cons_append, takeWhile_run hb (by decide),
      dropWhile_run hb (by decide)]
    rfl

theorem stringLength_whole {body : Text} (hb : ∀ c ∈ body, inString c = true) (rest : Text) :
    stringLength (body ++ (stringEnd ++ rest)) = body.length + 2 := by
  rw [stringLength_eq, stringEnd, List.cons_append, takeWhile_run hb (by decide),
    dropWhile_run hb (by decide)]
  rfl

theorem shortLength?_whole {intermediates : Text} {final : Char}
    (hi : ∀ c ∈ intermediates, isIntermediate c = true) (hf : isShortFinal final = true)
    (rest : Text) :
    shortLength? (intermediates ++ final :: rest) = some (intermediates.length + 1) := by
  have hfinal : isIntermediate final = false := not_isIntermediate (Or.inr hf)
  simp only [shortLength?, takeWhile_run hi hfinal, dropWhile_run hi hfinal, finishedLength?, hf,
    if_true]

/-- An intermediate character starts no other kind of sequence. -/
theorem not_introducer (hc : isIntermediate c = true) :
    c ≠ '[' ∧ c ≠ ']' ∧ ¬ StartsString c := by
  refine ⟨?_, ?_, ?_⟩
  · rintro rfl
    exact absurd hc (by decide)
  · rintro rfl
    exact absurd hc (by decide)
  · rintro (rfl | rfl | rfl | rfl) <;> exact absurd hc (by decide)

/-- A whole sequence is cut off as it is. -/
theorem sequenceLength?_whole {body : Text} (h : IsSequence body) (rest : Text) :
    sequenceLength? (body ++ rest) = some body.length := by
  cases h with
  | @control parameters intermediates final hp hi hf =>
    have hlength := controlLength?_whole hp hi hf rest
    have hshape : '[' :: (parameters ++ (intermediates ++ [final])) ++ rest =
        '[' :: (parameters ++ (intermediates ++ final :: rest)) := by simp
    rw [hshape, sequenceLength?_control, hlength]
    simp [Nat.add_assoc]
  | @command body ending hb he =>
    have hlength := commandLength_whole hb he rest
    rw [List.cons_append, List.append_assoc, sequenceLength?_command, hlength]
    simp
  | @string c body hc hb =>
    have hlength := stringLength_whole hb rest
    rw [List.cons_append, List.append_assoc, sequenceLength?_string hc, hlength]
    simp [stringEnd]
  | @short intermediates final hi hf hstart =>
    have hlength := shortLength?_whole hi hf rest
    have hshape : intermediates ++ [final] ++ rest = intermediates ++ final :: rest := by simp
    rw [hshape, List.length_append, List.length_singleton, ← hlength]
    cases intermediates with
    | nil =>
      obtain ⟨hcontrol, hcommand, hstring⟩ := hstart rfl
      exact sequenceLength?_short hcontrol hcommand hstring rest
    | cons c later =>
      obtain ⟨hcontrol, hcommand, hstring⟩ := not_introducer (hi c List.mem_cons_self)
      exact sequenceLength?_short hcontrol hcommand hstring (later ++ final :: rest)

end Lengths

/-! ## What such texts show -/

section Whole

variable {a : Text}

theorem pieces_whole {body : Text} (h : IsSequence body) (rest : Text) :
    pieces (esc :: (body ++ rest)) = .sequence (esc :: body) :: pieces rest := by
  rw [pieces_sequence (sequenceLength?_whole h rest), List.take_left, List.drop_left]

theorem strip_whole {body : Text} (h : IsSequence body) (rest : Text) :
    strip (esc :: (body ++ rest)) = strip rest := by
  rw [strip, pieces_whole h]
  rfl

/-- A text with whole sequences shows the same in front of every text. -/
theorem IsWhole.strip_append (h : IsWhole a) (b : Text) : strip (a ++ b) = strip a ++ strip b := by
  induction h with
  | nil => rfl
  | char hc _ ih => rw [List.cons_append, strip_char hc, strip_char hc, ih, List.cons_append]
  | sequence hb _ ih =>
    rw [List.cons_append, List.append_assoc, strip_whole hb, strip_whole hb, ih]

/-- A whole sequence is no string command that has not been terminated. -/
theorem IsSequence.not_isOpen {body : Text} (h : IsSequence body) : ¬ IsOpen body := by
  cases h with
  | control hp hi hf =>
    rintro (⟨hc, -⟩ | ⟨hc, -⟩)
    · exact absurd hc (by decide)
    · exact absurd hc (by decide)
  | @command body ending hb he =>
    rintro (⟨-, hall⟩ | ⟨hc, -⟩)
    · rw [List.all_append, Bool.and_eq_true] at hall
      rcases he with rfl | rfl <;> exact absurd hall.2 (by decide)
    · exact absurd hc (by decide)
  | @string c body hc hb =>
    rintro (⟨rfl, -⟩ | ⟨-, hall⟩)
    · exact absurd hc (by decide)
    · rw [List.all_append, Bool.and_eq_true] at hall
      exact absurd hall.2 (by decide)
  | @short intermediates final hi hf hstart =>
    have hfirst : ∃ c later, intermediates ++ [final] = c :: later ∧ c ≠ ']' ∧
        ¬ StartsString c := by
      cases intermediates with
      | nil => exact ⟨final, [], rfl, (hstart rfl).2⟩
      | cons c later => exact ⟨c, later ++ [final], rfl, (not_introducer (hi c (by simp))).2⟩
    obtain ⟨c, later, hlater, hcommand, hstring⟩ := hfirst
    rw [hlater]
    rintro (⟨hc, -⟩ | ⟨hc, -⟩)
    · exact hcommand hc
    · exact hstring hc

/-- A text with whole sequences does not end inside a string command. -/
theorem IsWhole.not_endsOpen (h : IsWhole a) : ¬ EndsOpen a := by
  induction h with
  | nil => simp [EndsOpen, pieces_nil]
  | char hc _ ih => rwa [endsOpen_char hc]
  | sequence hb _ ih =>
    rw [endsOpen_iff (pieces_whole hb _), not_or]
    exact ⟨fun hlast => hb.not_isOpen hlast.2, ih⟩

theorem isWhole_of_not_mem (h : esc ∉ a) : IsWhole a := by
  induction a with
  | nil => exact .nil
  | cons c rest ih =>
    rw [List.mem_cons, not_or] at h
    exact .char (Ne.symm h.1) (ih h.2)

theorem IsWhole.append {b : Text} (ha : IsWhole a) (hb : IsWhole b) : IsWhole (a ++ b) := by
  induction ha with
  | nil => exact hb
  | char hc _ ih => exact .char hc ih
  | sequence hs _ ih =>
    rw [List.cons_append, List.append_assoc]
    exact .sequence hs ih

end Whole

end TermPilot.Screen
