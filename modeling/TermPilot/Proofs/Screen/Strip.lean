import Mathlib.Data.List.Basic
import TermPilot.Proofs.Screen.Segments

/-!
# What stripping takes and what it leaves

From a stream of texts and whole escape sequences exactly the sequences are taken. From any dump they
are taken in one pass, and that can bring an escape character that is shown together with characters
that make a sequence with it. What is left holds an escape sequence exactly where this happens.
-/

namespace TermPilot.Screen

open Terminal

/-! ## Streams of texts and whole sequences -/

/-- A segment of a stream. -/
inductive Segment where
  /-- Text without an escape character. -/
  | text (t : Text) (plain : esc ∉ t)
  /-- A whole escape sequence, given by what follows its escape character. -/
  | sequence (body : Text) (whole : IsSequence body)

/-- The characters of a segment. -/
def Segment.raw : Segment → Text
  | .text t _ => t
  | .sequence body _ => esc :: body

/-- What a segment shows. -/
def Segment.shown : Segment → Text
  | .text t _ => t
  | .sequence _ _ => []

/-- The pieces that a segment is to be cut into. -/
def Segment.pieces : Segment → List Piece
  | .text t _ => t.map .char
  | .sequence body _ => [.sequence (esc :: body)]

section Segments

theorem pieces_raw_append (segment : Segment) (rest : Text) :
    pieces (segment.raw ++ rest) = segment.pieces ++ pieces rest := by
  cases segment with
  | text t plain => exact pieces_append_of_not_mem plain rest
  | sequence body whole => exact pieces_whole whole rest

theorem Segment.flatMap_visible (segment : Segment) :
    segment.pieces.flatMap Piece.visible = segment.shown := by
  cases segment with
  | text t plain => exact flatMap_visible_char t
  | sequence body whole => rfl

theorem pieces_flatMap_raw (segments : List Segment) :
    pieces (segments.flatMap Segment.raw) = segments.flatMap Segment.pieces := by
  induction segments with
  | nil => rfl
  | cons segment segments ih =>
    rw [List.flatMap_cons, pieces_raw_append, ih, List.flatMap_cons]

/-- A stream is cut into the characters of its texts and its whole sequences, and what it shows are
its texts. -/
theorem strip_segments (segments : List Segment) :
    pieces (segments.flatMap Segment.raw) = segments.flatMap Segment.pieces ∧
      strip (segments.flatMap Segment.raw) = segments.flatMap Segment.shown := by
  refine ⟨pieces_flatMap_raw segments, ?_⟩
  rw [strip, pieces_flatMap_raw, List.flatMap_assoc]
  exact List.flatMap_congr fun segment _ => segment.flatMap_visible

end Segments

/-! ## Sequences in a text -/

/-- The text makes an escape sequence with an escape character in front of it. -/
def StartsSequence (t : Text) : Prop :=
  ∃ intermediates final rest, t = intermediates ++ final :: rest ∧
    (∀ c ∈ intermediates, isIntermediate c = true) ∧ isShortFinal final = true

/-- Some part of the text is an escape sequence. -/
def HoldsSequence (t : Text) : Prop :=
  ∃ before after, t = before ++ esc :: after ∧ StartsSequence after

section Sequences

variable {c : Char} {t rest : Text}

theorem isShortFinal_of_startsString (h : StartsString c) : isShortFinal c = true := by
  rcases h with rfl | rfl | rfl | rfl <;> decide

/-- Every kind of sequence starts like a short one. -/
theorem startsSequence_of_sequenceLength? {n : Nat} (h : sequenceLength? t = some n) :
    StartsSequence t := by
  cases t with
  | nil => cases h
  | cons c rest =>
    rcases introducer_cases c with rfl | rfl | hstring | ⟨hcontrol, hcommand, hstring⟩
    · exact ⟨[], '[', rest, rfl, by simp, by decide⟩
    · exact ⟨[], ']', rest, rfl, by simp, by decide⟩
    · exact ⟨[], c, rest, rfl, by simp, isShortFinal_of_startsString hstring⟩
    · rw [sequenceLength?_short hcontrol hcommand hstring, shortLength?] at h
      have hcut : (c :: rest).takeWhile isIntermediate ++ (c :: rest).dropWhile isIntermediate =
          c :: rest := List.takeWhile_append_dropWhile
      generalize (c :: rest).dropWhile isIntermediate = later at h hcut
      cases later with
      | nil => cases h
      | cons final later =>
        refine ⟨_, final, later, hcut.symm, fun d hd => List.mem_takeWhile_imp hd, ?_⟩
        by_contra hfinal
        rw [finishedLength?, if_neg hfinal] at h
        cases h

theorem StartsSequence.exists_length (h : StartsSequence t) : ∃ n, sequenceLength? t = some n := by
  obtain ⟨intermediates, final, rest, rfl, hi, hf⟩ := h
  cases intermediates with
  | nil =>
    rw [List.nil_append]
    rcases introducer_cases final with rfl | rfl | hstring | ⟨hcontrol, hcommand, hstring⟩
    · exact ⟨_, sequenceLength?_control rest⟩
    · exact ⟨_, sequenceLength?_command rest⟩
    · exact ⟨_, sequenceLength?_string hstring rest⟩
    · rw [sequenceLength?_short hcontrol hcommand hstring]
      exact ⟨_, @shortLength?_whole [] final (by simp) hf rest⟩
  | cons c later =>
    obtain ⟨hcontrol, hcommand, hstring⟩ := not_introducer (hi c List.mem_cons_self)
    rw [List.cons_append, sequenceLength?_short hcontrol hcommand hstring, ← List.cons_append]
    exact ⟨_, shortLength?_whole hi hf rest⟩

theorem not_startsSequence (h : sequenceLength? t = none) : ¬ StartsSequence t := by
  intro hstarts
  obtain ⟨n, hn⟩ := hstarts.exists_length
  rw [h] at hn
  cases hn

theorem not_holdsSequence_nil : ¬ HoldsSequence [] := by
  rintro ⟨before, after, hnil, -⟩
  simp at hnil

theorem holdsSequence_cons :
    HoldsSequence (c :: rest) ↔ (c = esc ∧ StartsSequence rest) ∨ HoldsSequence rest := by
  constructor
  · rintro ⟨before, after, hcut, hstarts⟩
    cases before with
    | nil =>
      obtain ⟨rfl, rfl⟩ := List.cons.inj hcut
      exact Or.inl ⟨rfl, hstarts⟩
    | cons d before =>
      obtain ⟨rfl, rfl⟩ := List.cons.inj hcut
      exact Or.inr ⟨before, after, rfl, hstarts⟩
  · rintro (⟨rfl, hstarts⟩ | ⟨before, after, rfl, hstarts⟩)
    · exact ⟨[], rest, rfl, hstarts⟩
    · exact ⟨c :: before, after, rfl, hstarts⟩

theorem exists_sequence_mem_pieces_iff (t : Text) :
    (∃ raw, .sequence raw ∈ pieces t) ↔ HoldsSequence t := by
  induction t using pieces_induction with
  | nil => simp [pieces_nil, not_holdsSequence_nil]
  | char c rest hc ih => simp [pieces_char hc, holdsSequence_cons, hc, ih]
  | sequence rest n h ih =>
    rw [pieces_sequence h, holdsSequence_cons]
    exact iff_of_true ⟨_, List.mem_cons_self⟩ (Or.inl ⟨rfl, startsSequence_of_sequenceLength? h⟩)
  | stray rest h ih => simp [pieces_stray h, holdsSequence_cons, not_startsSequence h, ih]

theorem strip_eq_self_iff (t : Text) : strip t = t ↔ ¬ HoldsSequence t := by
  induction t using pieces_induction with
  | nil => exact iff_of_true strip_nil not_holdsSequence_nil
  | char c rest hc ih => simp [strip_char hc, holdsSequence_cons, hc, ih]
  | sequence rest n h ih =>
    refine iff_of_false ?_ (not_not_intro ?_)
    · intro hsame
      have hle := (strip_sublist (rest.drop n)).length_le
      have hlength := congrArg List.length hsame
      rw [strip_sequence h, List.length_cons] at hlength
      rw [List.length_drop] at hle
      omega
    · exact holdsSequence_cons.mpr (Or.inl ⟨rfl, startsSequence_of_sequenceLength? h⟩)
  | stray rest h ih => simp [strip_stray h, holdsSequence_cons, not_startsSequence h, ih]

end Sequences

/-! ## What stripping brings together -/

/-- Without the sequences among them the pieces hold a new one: an escape character that is shown
comes to stand in front of intermediate characters and a final one, with which it makes a sequence
now that those between them are taken. -/
def Rejoins (cut : List Piece) : Prop :=
  ∃ before between final after, cut = before ++ .char esc :: (between ++ .char final :: after) ∧
    (∃ raw, .sequence raw ∈ between) ∧
    (∀ c ∈ between.flatMap Piece.visible, isIntermediate c = true) ∧ isShortFinal final = true

section Rejoins

variable {between : List Piece} {t : Text}

theorem flatMap_raw_of_no_sequence (h : ¬ ∃ raw, .sequence raw ∈ between) :
    between.flatMap Piece.raw = between.flatMap Piece.visible := by
  refine List.flatMap_congr fun piece hpiece => ?_
  cases piece with
  | char c => rfl
  | sequence raw => exact absurd ⟨raw, hpiece⟩ h

/-- An escape character that is shown does not start a sequence in the dump. -/
theorem exists_stray {before after : List Piece} (h : pieces t = before ++ .char esc :: after) :
    ∃ rest, pieces rest = after ∧ ¬ StartsSequence rest := by
  obtain ⟨s, hs⟩ := exists_pieces_of_append h
  obtain ⟨c, rest, -, hc, he, -⟩ | ⟨rest, n, -, -, he, -⟩ | ⟨rest, -, hnone, -, hrest⟩ :=
    pieces_eq_cons hs
  · exact absurd (Piece.char.inj he).symm hc
  · cases he
  · exact ⟨rest, hrest, not_startsSequence hnone⟩

/-- What is left of a dump holds a sequence exactly if one is brought together. -/
theorem holdsSequence_strip_iff (raw : Text) : HoldsSequence (strip raw) ↔ Rejoins (pieces raw) := by
  constructor
  · rintro ⟨front, back, hcut, intermediates, final, rest, rfl, hi, hf⟩
    obtain ⟨before, later, hpieces, -, hlater⟩ := exists_char_of_flatMap_visible hcut
    obtain ⟨between, after, rfl, hbetween, -⟩ := exists_char_of_flatMap_visible hlater
    rw [← hbetween] at hi
    refine ⟨before, between, final, after, hpieces, ?_, hi, hf⟩
    -- otherwise the sequence would stand in the dump as it is
    by_contra hnone
    obtain ⟨s, hs, hstray⟩ := exists_stray hpieces
    refine hstray ⟨between.flatMap Piece.visible, final, after.flatMap Piece.raw, ?_, hi, hf⟩
    rw [← flatMap_raw_pieces s, hs, List.flatMap_append, flatMap_raw_of_no_sequence hnone]
    rfl
  · rintro ⟨before, between, final, after, hpieces, -, hi, hf⟩
    refine ⟨before.flatMap Piece.visible, _, ?_, between.flatMap Piece.visible, final,
      after.flatMap Piece.visible, rfl, hi, hf⟩
    rw [strip, hpieces, List.flatMap_append, List.flatMap_cons, List.flatMap_append]
    rfl

/-- Stripping again changes nothing exactly if no escape sequence is left, and one is left exactly if
taking the sequences of the dump has brought it together. -/
theorem strip_strip_iff (raw : Text) :
    (strip (strip raw) = strip raw ↔ ¬ ∃ left, .sequence left ∈ pieces (strip raw)) ∧
      ((∃ left, .sequence left ∈ pieces (strip raw)) ↔ Rejoins (pieces raw)) := by
  rw [exists_sequence_mem_pieces_iff, holdsSequence_strip_iff, strip_eq_self_iff,
    holdsSequence_strip_iff]
  exact ⟨Iff.rfl, Iff.rfl⟩

/-- An escape character in front of a sequence is shown, and without that sequence it makes one with
the letter behind it. -/
theorem strip_not_idempotent : ¬ ∀ raw, strip (strip raw) = strip raw := by
  intro h
  have hagain := h "\x1b\x1b[mc".toList
  revert hagain
  decide

end Rejoins

end TermPilot.Screen
