import Mathlib.Data.List.TakeWhile
import TermPilot.Screen.Escape

/-!
# The lengths of escape sequences

How long an escape sequence is in front of a text that starts with a line feed, a carriage return or
an escape character: as long as it is alone, unless it is a string command that has not been
terminated. Such a command takes the line feed, and what follows it, for its own.
-/

namespace TermPilot.Screen

open Terminal

/-! ## Runs of characters -/

section Runs

variable {p : Char → Bool} {t b : Text}

/-- A run that ends in the first of two texts, or where the second starts, is the same as in the
first text alone. -/
theorem takeWhile_append_of_stop
    (h : (∃ c ∈ t, p c = false) ∨ ∀ c ∈ b.head?, p c = false) :
    (t ++ b).takeWhile p = t.takeWhile p := by
  induction t with
  | nil =>
    rcases h with ⟨c, hc, -⟩ | h
    · exact absurd hc List.not_mem_nil
    · cases b with
      | nil => rfl
      | cons c rest => exact List.takeWhile_cons_of_neg (by simp [h c rfl])
  | cons c rest ih =>
    by_cases hc : p c = true
    · rw [List.cons_append, List.takeWhile_cons_of_pos hc, List.takeWhile_cons_of_pos hc, ih]
      refine h.imp_left ?_
      rintro ⟨d, hd, hpd⟩
      rcases List.mem_cons.mp hd with rfl | hd
      · exact absurd (hc.symm.trans hpd) (by decide)
      · exact ⟨d, hd, hpd⟩
    · rw [List.cons_append, List.takeWhile_cons_of_neg hc, List.takeWhile_cons_of_neg hc]

theorem dropWhile_append_of_stop
    (h : (∃ c ∈ t, p c = false) ∨ ∀ c ∈ b.head?, p c = false) :
    (t ++ b).dropWhile p = t.dropWhile p ++ b := by
  have happend : (t ++ b).takeWhile p ++ (t ++ b).dropWhile p = t ++ b :=
    List.takeWhile_append_dropWhile
  have htake : t.takeWhile p ++ t.dropWhile p = t := List.takeWhile_append_dropWhile
  rw [takeWhile_append_of_stop h] at happend
  refine List.append_cancel_left (happend.trans ?_)
  rw [← List.append_assoc, htake]

theorem length_takeWhile_add_dropWhile :
    (t.takeWhile p).length + (t.dropWhile p).length = t.length := by
  rw [← List.length_append, List.takeWhile_append_dropWhile]

end Runs

/-! ## Texts that start a new piece -/

/-- The text is empty or starts with a line feed, a carriage return or an escape character. -/
def StartsAnew (t : Text) : Prop := ∀ c ∈ t.head?, c = '\n' ∨ c = '\r' ∨ c = esc

section Lengths

variable {t b : Text}

theorem StartsAnew.not_mem {p : Char → Bool} (hb : StartsAnew b) (hfeed : p '\n' = false)
    (hreturn : p '\r' = false) (hesc : p esc = false) : ∀ c ∈ b.head?, p c = false := by
  intro c hc
  rcases hb c hc with rfl | rfl | rfl
  · exact hfeed
  · exact hreturn
  · exact hesc

theorem finishedLength?_append {final : Char → Bool} {length : Nat}
    (hb : ∀ c ∈ b.head?, final c = false) :
    finishedLength? final length (t ++ b) = finishedLength? final length t := by
  cases t with
  | nil =>
    cases b with
    | nil => rfl
    | cons c rest => simp [finishedLength?, hb c rfl]
  | cons c rest => rfl

theorem controlLength?_append (hb : StartsAnew b) : controlLength? (t ++ b) = controlLength? t := by
  have hparameter := hb.not_mem (p := isParameter) (by decide) (by decide) (by decide)
  have hintermediate := hb.not_mem (p := isIntermediate) (by decide) (by decide) (by decide)
  have hfinal := hb.not_mem (p := isFinal) (by decide) (by decide) (by decide)
  simp only [controlLength?, takeWhile_append_of_stop (Or.inr hparameter),
    dropWhile_append_of_stop (Or.inr hparameter), takeWhile_append_of_stop (Or.inr hintermediate),
    dropWhile_append_of_stop (Or.inr hintermediate), finishedLength?_append hfinal]

theorem shortLength?_append (hb : StartsAnew b) : shortLength? (t ++ b) = shortLength? t := by
  have hintermediate := hb.not_mem (p := isIntermediate) (by decide) (by decide) (by decide)
  have hfinal := hb.not_mem (p := isShortFinal) (by decide) (by decide) (by decide)
  unfold shortLength?
  rw [takeWhile_append_of_stop (Or.inr hintermediate),
    dropWhile_append_of_stop (Or.inr hintermediate), finishedLength?_append hfinal]

theorem terminatorLength_append (hb : StartsAnew b) (hne : t ≠ []) :
    terminatorLength (t ++ b) = terminatorLength t := by
  obtain ⟨c, rest, rfl⟩ := List.exists_cons_of_ne_nil hne
  cases rest with
  | cons d rest =>
    by_cases hd : d = '\\'
    · subst hd
      rfl
    · simp [terminatorLength, hd]
  | nil =>
    cases b with
    | nil => rfl
    | cons d later =>
      have hd : d ≠ '\\' := by
        rcases hb d rfl with rfl | rfl | rfl <;> decide
      simp [terminatorLength, hd]

/-! ## String commands -/

/-- A character of the body of an operating system command. -/
def inCommand (c : Char) : Bool := c ≠ '\x07' && c ≠ esc

/-- A character of the body of another string command. -/
def inString (c : Char) : Bool := c ≠ esc

/-- The length of the terminator of an operating system command. -/
def commandEndLength (t : Text) : Nat :=
  match t with
  | '\x07' :: _ => 1
  | _ => terminatorLength t

theorem commandLength_eq (t : Text) :
    commandLength t = (t.takeWhile inCommand).length + commandEndLength (t.dropWhile inCommand) :=
  rfl

theorem stringLength_eq (t : Text) :
    stringLength t = (t.takeWhile inString).length + terminatorLength (t.dropWhile inString) :=
  rfl

theorem commandEndLength_append (hb : StartsAnew b) (hne : t ≠ []) :
    commandEndLength (t ++ b) = commandEndLength t := by
  obtain ⟨c, rest, rfl⟩ := List.exists_cons_of_ne_nil hne
  by_cases hc : c = '\x07'
  · subst hc
    rfl
  · have hend : ∀ later, commandEndLength (c :: later) = terminatorLength (c :: later) := by
      intro later
      simp [commandEndLength, hc]
    rw [List.cons_append, hend, hend, ← List.cons_append, terminatorLength_append hb hne]

theorem dropWhile_ne_nil {p : Char → Bool} (h : ∃ c ∈ t, p c = false) : t.dropWhile p ≠ [] := by
  obtain ⟨c, hc, hp⟩ := h
  intro hnil
  have hall := List.dropWhile_eq_nil_iff.mp hnil c hc
  exact absurd (hall.symm.trans hp) (by decide)

/-- A terminated command is as long in a longer text. -/
theorem commandLength_append (hb : StartsAnew b) (h : ∃ c ∈ t, inCommand c = false) :
    commandLength (t ++ b) = commandLength t := by
  rw [commandLength_eq, commandLength_eq, takeWhile_append_of_stop (Or.inl h),
    dropWhile_append_of_stop (Or.inl h), commandEndLength_append hb (dropWhile_ne_nil h)]

theorem stringLength_append (hb : StartsAnew b) (h : ∃ c ∈ t, inString c = false) :
    stringLength (t ++ b) = stringLength t := by
  rw [stringLength_eq, stringLength_eq, takeWhile_append_of_stop (Or.inl h),
    dropWhile_append_of_stop (Or.inl h), terminatorLength_append hb (dropWhile_ne_nil h)]

/-- A command that is not terminated goes on in the text after it. -/
theorem commandLength_append_of_open (h : ∀ c ∈ t, inCommand c = true) :
    commandLength (t ++ b) = t.length + commandLength b := by
  rw [commandLength_eq, commandLength_eq, List.takeWhile_append_of_pos h,
    List.dropWhile_append_of_pos h, List.length_append, Nat.add_assoc]

theorem stringLength_append_of_open (h : ∀ c ∈ t, inString c = true) :
    stringLength (t ++ b) = t.length + stringLength b := by
  rw [stringLength_eq, stringLength_eq, List.takeWhile_append_of_pos h,
    List.dropWhile_append_of_pos h, List.length_append, Nat.add_assoc]

theorem terminatorLength_le : terminatorLength t ≤ t.length := by
  unfold terminatorLength
  split
  · split
    · simp
    · exact Nat.zero_le _
  · exact Nat.zero_le _

theorem commandEndLength_le : commandEndLength t ≤ t.length := by
  unfold commandEndLength
  split
  · simp
  · exact terminatorLength_le

theorem commandLength_le : commandLength t ≤ t.length := by
  have hsum := length_takeWhile_add_dropWhile (p := inCommand) (t := t)
  have hend := commandEndLength_le (t := t.dropWhile inCommand)
  rw [commandLength_eq]
  omega

theorem stringLength_le : stringLength t ≤ t.length := by
  have hsum := length_takeWhile_add_dropWhile (p := inString) (t := t)
  have hend := terminatorLength_le (t := t.dropWhile inString)
  rw [stringLength_eq]
  omega

theorem finishedLength?_le {final : Char → Bool} {length n : Nat}
    (h : finishedLength? final length t = some n) : n ≤ length + t.length := by
  unfold finishedLength? at h
  split at h
  · split at h
    · obtain rfl := Option.some.inj h
      simp only [List.length_cons]
      omega
    · cases h
  · cases h

theorem controlLength?_le {n : Nat} (h : controlLength? t = some n) : n ≤ t.length := by
  have hparameters := length_takeWhile_add_dropWhile (p := isParameter) (t := t)
  have hintermediates :=
    length_takeWhile_add_dropWhile (p := isIntermediate) (t := t.dropWhile isParameter)
  have hle := finishedLength?_le h
  omega

theorem shortLength?_le {n : Nat} (h : shortLength? t = some n) : n ≤ t.length := by
  have hintermediates := length_takeWhile_add_dropWhile (p := isIntermediate) (t := t)
  have hle := finishedLength?_le h
  omega

end Lengths

/-! ## Escape sequences -/

/-- The character starts a string command that is no operating system command. -/
def StartsString (c : Char) : Prop := c = 'P' ∨ c = 'X' ∨ c = '^' ∨ c = '_'

instance (c : Char) : Decidable (StartsString c) := inferInstanceAs (Decidable (_ ∨ _))

/-- A string command after its escape character that has not been terminated. -/
def IsOpen : Text → Prop
  | [] => False
  | c :: body =>
    (c = ']' ∧ body.all inCommand = true) ∨ (StartsString c ∧ body.all inString = true)

instance : (t : Text) → Decidable (IsOpen t)
  | [] => .isFalse id
  | _ :: _ => inferInstanceAs (Decidable (_ ∨ _))

section Sequences

variable {c : Char} {t b : Text}

theorem sequenceLength?_control (rest : Text) :
    sequenceLength? ('[' :: rest) = some ((controlLength? rest).getD 0 + 1) := by
  rw [sequenceLength?]
  cases controlLength? rest <;> rfl

theorem sequenceLength?_command (rest : Text) :
    sequenceLength? (']' :: rest) = some (commandLength rest + 1) := rfl

theorem sequenceLength?_string (hc : StartsString c) (rest : Text) :
    sequenceLength? (c :: rest) = some (stringLength rest + 1) := by
  rcases hc with rfl | rfl | rfl | rfl <;> rfl

theorem sequenceLength?_short (hcontrol : c ≠ '[') (hcommand : c ≠ ']') (hstring : ¬ StartsString c)
    (rest : Text) : sequenceLength? (c :: rest) = shortLength? (c :: rest) := by
  unfold sequenceLength?
  split
  · next h => exact absurd (List.head_eq_of_cons_eq h) hcontrol
  · next h => exact absurd (List.head_eq_of_cons_eq h) hcommand
  · next h =>
    obtain ⟨rfl, rfl⟩ := List.cons.inj h
    exact if_neg hstring
  · next h => cases h

/-- The four sorts of sequences. -/
theorem introducer_cases (c : Char) :
    c = '[' ∨ c = ']' ∨ StartsString c ∨ (c ≠ '[' ∧ c ≠ ']' ∧ ¬ StartsString c) := by
  by_cases hcontrol : c = '['
  · exact Or.inl hcontrol
  by_cases hcommand : c = ']'
  · exact Or.inr (Or.inl hcommand)
  by_cases hstring : StartsString c
  · exact Or.inr (Or.inr (Or.inl hstring))
  · exact Or.inr (Or.inr (Or.inr ⟨hcontrol, hcommand, hstring⟩))

theorem sequenceLength?_le {n : Nat} (h : sequenceLength? t = some n) : n ≤ t.length := by
  cases t with
  | nil => cases h
  | cons c rest =>
    rcases introducer_cases c with rfl | rfl | hstring | ⟨hcontrol, hcommand, hstring⟩
    · rw [sequenceLength?_control] at h
      obtain rfl := Option.some.inj h
      cases hlength : controlLength? rest with
      | none => simp
      | some m => exact Nat.succ_le_succ (controlLength?_le hlength)
    · rw [sequenceLength?_command] at h
      obtain rfl := Option.some.inj h
      exact Nat.succ_le_succ commandLength_le
    · rw [sequenceLength?_string hstring] at h
      obtain rfl := Option.some.inj h
      exact Nat.succ_le_succ stringLength_le
    · rw [sequenceLength?_short hcontrol hcommand hstring] at h
      exact shortLength?_le h

/-- A sequence that is not open is the same in front of a text that starts anew. -/
theorem sequenceLength?_append (hb : StartsAnew b) (h : ¬ IsOpen t) :
    sequenceLength? (t ++ b) = sequenceLength? t := by
  cases t with
  | nil =>
    cases b with
    | nil => rfl
    | cons c rest => rcases hb c rfl with rfl | rfl | rfl <;> rfl
  | cons c rest =>
    rw [IsOpen, not_or] at h
    rw [List.cons_append]
    rcases introducer_cases c with rfl | rfl | hstring | ⟨hcontrol, hcommand, hstring⟩
    · rw [sequenceLength?_control, sequenceLength?_control, controlLength?_append hb]
    · have hclosed : ∃ d ∈ rest, inCommand d = false := by simpa using h.1
      rw [sequenceLength?_command, sequenceLength?_command, commandLength_append hb hclosed]
    · have hclosed : ∃ d ∈ rest, inString d = false := by simpa [hstring] using h.2
      rw [sequenceLength?_string hstring, sequenceLength?_string hstring,
        stringLength_append hb hclosed]
    · rw [sequenceLength?_short hcontrol hcommand hstring,
        sequenceLength?_short hcontrol hcommand hstring, ← List.cons_append, shortLength?_append hb]

/-- An open sequence goes on in the text after it: through a line feed at its start, but before an
escape character only through a terminator. -/
theorem sequenceLength?_append_of_isOpen (h : IsOpen t) (b : Text) :
    ∃ n, sequenceLength? (t ++ b) = some (t.length + n) ∧ (b.head? = some '\n' → 1 ≤ n) ∧
      (b.head? = some esc → n = terminatorLength b) := by
  cases t with
  | nil => exact absurd h (by simp [IsOpen])
  | cons c rest =>
    rw [List.cons_append]
    simp only [IsOpen, List.all_eq_true] at h
    rcases h with ⟨rfl, hbody⟩ | ⟨hstring, hbody⟩
    · refine ⟨commandLength b, ?_, ?_, ?_⟩
      · rw [sequenceLength?_command, commandLength_append_of_open hbody, List.length_cons]
        congr 1
        omega
      · intro hfeed
        obtain ⟨later, rfl⟩ := List.head?_eq_some_iff.mp hfeed
        rw [commandLength_eq, List.takeWhile_cons_of_pos (by decide), List.length_cons]
        omega
      · intro hesc
        obtain ⟨later, rfl⟩ := List.head?_eq_some_iff.mp hesc
        rw [commandLength_eq, List.takeWhile_cons_of_neg (by decide),
          List.dropWhile_cons_of_neg (by decide), List.length_nil, Nat.zero_add]
        rfl
    · refine ⟨stringLength b, ?_, ?_, ?_⟩
      · rw [sequenceLength?_string hstring, stringLength_append_of_open hbody, List.length_cons]
        congr 1
        omega
      · intro hfeed
        obtain ⟨later, rfl⟩ := List.head?_eq_some_iff.mp hfeed
        rw [stringLength_eq, List.takeWhile_cons_of_pos (by decide), List.length_cons]
        omega
      · intro hesc
        obtain ⟨later, rfl⟩ := List.head?_eq_some_iff.mp hesc
        rw [stringLength_eq, List.takeWhile_cons_of_neg (by decide),
          List.dropWhile_cons_of_neg (by decide), List.length_nil, Nat.zero_add]

theorem isOpen_length {n : Nat} (h : IsOpen t) (hlength : sequenceLength? t = some n) :
    n = t.length := by
  obtain ⟨m, hm, -, -⟩ := sequenceLength?_append_of_isOpen h []
  rw [List.append_nil, hlength] at hm
  have hn := Option.some.inj hm
  have hle := sequenceLength?_le hlength
  omega

theorem not_isOpen_of_none (h : sequenceLength? t = none) : ¬ IsOpen t := by
  intro hopen
  obtain ⟨m, hm, -, -⟩ := sequenceLength?_append_of_isOpen hopen []
  rw [List.append_nil, h] at hm
  cases hm

end Sequences

end TermPilot.Screen
