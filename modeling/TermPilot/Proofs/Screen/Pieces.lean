import TermPilot.Proofs.Screen.Sequences

/-!
# The pieces of a dump

How the pieces of a dump, and what they show, depend on what follows the dump. Text that starts with
a line feed, a carriage return or an escape character changes nothing about the pieces before it,
unless a string command has not been terminated.
-/

namespace TermPilot.Screen

open Terminal

/-! ## Pieces -/

theorem piecesAfter_eq (n : Nat) (t : Text) : piecesAfter n t = pieces (t.drop n) := by
  induction t generalizing n with
  | nil => cases n <;> rfl
  | cons c rest ih =>
    cases n with
    | zero => rfl
    | succ n =>
      rw [piecesAfter, ih]
      rfl

theorem pieces_nil : pieces [] = [] := rfl

section Pieces

variable {c : Char} {rest : Text}

theorem pieces_char (hc : c ≠ esc) : pieces (c :: rest) = .char c :: pieces rest := by
  rw [pieces, piecesAfter, if_neg hc]
  rfl

theorem pieces_sequence {n : Nat} (h : sequenceLength? rest = some n) :
    pieces (esc :: rest) = .sequence (esc :: rest.take n) :: pieces (rest.drop n) := by
  rw [pieces, piecesAfter, if_pos rfl, h]
  simp only [piecesAfter_eq]

theorem pieces_stray (h : sequenceLength? rest = none) :
    pieces (esc :: rest) = .char esc :: pieces rest := by
  rw [pieces, piecesAfter, if_pos rfl, h]
  rfl

/-- What holds of the empty text, and of every text as soon as it holds of what follows the first
piece, holds of all texts. -/
@[elab_as_elim]
theorem pieces_induction {motive : Text → Prop} (nil : motive [])
    (char : ∀ c rest, c ≠ esc → motive rest → motive (c :: rest))
    (sequence : ∀ rest n, sequenceLength? rest = some n → motive (rest.drop n) →
      motive (esc :: rest))
    (stray : ∀ rest, sequenceLength? rest = none → motive rest → motive (esc :: rest))
    (t : Text) : motive t := by
  induction hlength : t.length using Nat.strong_induction_on generalizing t with
  | _ length ih =>
    cases t with
    | nil => exact nil
    | cons c rest =>
      have hshorter : ∀ n, (rest.drop n).length < length := by
        intro n
        rw [← hlength, List.length_drop, List.length_cons]
        omega
      by_cases hc : c = esc
      · subst hc
        cases hsequence : sequenceLength? rest with
        | none => exact stray rest hsequence (ih _ (hshorter 0) rest rfl)
        | some n => exact sequence rest n hsequence (ih _ (hshorter n) _ rfl)
      · exact char c rest hc (ih _ (hshorter 0) rest rfl)

theorem pieces_eq_nil_iff {t : Text} : pieces t = [] ↔ t = [] := by
  cases t with
  | nil => exact iff_of_true rfl rfl
  | cons c rest =>
    refine iff_of_false ?_ (List.cons_ne_nil c rest)
    by_cases hc : c = esc
    · subst hc
      cases hsequence : sequenceLength? rest with
      | none => rw [pieces_stray hsequence]; exact List.cons_ne_nil _ _
      | some n => rw [pieces_sequence hsequence]; exact List.cons_ne_nil _ _
    · rw [pieces_char hc]
      exact List.cons_ne_nil _ _

/-- The characters of a text without an escape character are pieces of their own. -/
theorem pieces_append_of_not_mem {a : Text} (h : esc ∉ a) (b : Text) :
    pieces (a ++ b) = a.map Piece.char ++ pieces b := by
  induction a with
  | nil => rfl
  | cons c a ih =>
    rw [List.mem_cons, not_or] at h
    rw [List.cons_append, pieces_char (Ne.symm h.1), ih h.2]
    rfl

/-- The characters of a piece. -/
def Piece.raw : Piece → Text
  | .char c => [c]
  | .sequence raw => raw

/-- The pieces of a dump make it up. -/
theorem flatMap_raw_pieces (t : Text) : (pieces t).flatMap Piece.raw = t := by
  induction t using pieces_induction with
  | nil => rfl
  | char c rest hc ih =>
    rw [pieces_char hc, List.flatMap_cons, ih]
    rfl
  | sequence rest n h ih =>
    rw [pieces_sequence h, List.flatMap_cons, ih, Piece.raw, List.cons_append,
      List.take_append_drop]
  | stray rest h ih =>
    rw [pieces_stray h, List.flatMap_cons, ih]
    rfl

/-- What stands at the start of a dump by its first piece, and what the other pieces are cut from. -/
theorem pieces_eq_cons {t : Text} {piece : Piece} {later : List Piece}
    (h : pieces t = piece :: later) :
    (∃ c rest, t = c :: rest ∧ c ≠ esc ∧ piece = .char c ∧ pieces rest = later) ∨
      (∃ rest n, t = esc :: rest ∧ sequenceLength? rest = some n ∧
        piece = .sequence (esc :: rest.take n) ∧ pieces (rest.drop n) = later) ∨
      ∃ rest, t = esc :: rest ∧ sequenceLength? rest = none ∧ piece = .char esc ∧
        pieces rest = later := by
  cases t with
  | nil => cases h
  | cons c rest =>
    by_cases hc : c = esc
    · subst hc
      cases hsequence : sequenceLength? rest with
      | none =>
        rw [pieces_stray hsequence] at h
        obtain ⟨rfl, hrest⟩ := List.cons.inj h
        exact Or.inr (Or.inr ⟨rest, rfl, hsequence, rfl, hrest⟩)
      | some n =>
        rw [pieces_sequence hsequence] at h
        obtain ⟨rfl, hrest⟩ := List.cons.inj h
        exact Or.inr (Or.inl ⟨rest, n, rfl, hsequence, rfl, hrest⟩)
    · rw [pieces_char hc] at h
      obtain ⟨rfl, hrest⟩ := List.cons.inj h
      exact Or.inl ⟨c, rest, rfl, hc, rfl, hrest⟩

/-- The pieces after some of the pieces of a dump are the pieces of the rest of it. -/
theorem exists_pieces_of_append {t : Text} {before later : List Piece}
    (h : pieces t = before ++ later) : ∃ after, pieces after = later := by
  induction before generalizing t with
  | nil => exact ⟨t, h⟩
  | cons piece before ih =>
    obtain ⟨c, rest, -, -, -, hrest⟩ | ⟨rest, n, -, -, -, hrest⟩ | ⟨rest, -, -, -, hrest⟩ :=
      pieces_eq_cons h
    · exact ih hrest
    · exact ih hrest
    · exact ih hrest

/-! ## Visible text -/

theorem flatMap_visible_char (t : Text) : (t.map Piece.char).flatMap Piece.visible = t := by
  rw [List.flatMap_map]
  exact List.flatMap_singleton' t

theorem strip_nil : strip [] = [] := rfl

theorem strip_char (hc : c ≠ esc) : strip (c :: rest) = c :: strip rest := by
  rw [strip, pieces_char hc]
  rfl

theorem strip_sequence {n : Nat} (h : sequenceLength? rest = some n) :
    strip (esc :: rest) = strip (rest.drop n) := by
  rw [strip, pieces_sequence h]
  rfl

theorem strip_stray (h : sequenceLength? rest = none) :
    strip (esc :: rest) = esc :: strip rest := by
  rw [strip, pieces_stray h]
  rfl

/-- A character that pieces show is one of the pieces. -/
theorem exists_char_of_flatMap_visible {cut : List Piece} {a b : Text}
    (h : cut.flatMap Piece.visible = a ++ c :: b) :
    ∃ before after, cut = before ++ .char c :: after ∧ before.flatMap Piece.visible = a ∧
      after.flatMap Piece.visible = b := by
  induction cut generalizing a with
  | nil => simp at h
  | cons piece cut ih =>
    cases piece with
    | sequence raw =>
      obtain ⟨before, after, rfl, hbefore, hafter⟩ := ih h
      exact ⟨.sequence raw :: before, after, rfl, hbefore, hafter⟩
    | char d =>
      have hshown : d :: cut.flatMap Piece.visible = a ++ c :: b := h
      cases a with
      | nil =>
        obtain ⟨rfl, hafter⟩ := List.cons.inj hshown
        exact ⟨[], cut, rfl, rfl, hafter⟩
      | cons e a =>
        obtain ⟨rfl, hlater⟩ := List.cons.inj hshown
        obtain ⟨before, after, rfl, hbefore, hafter⟩ := ih hlater
        exact ⟨.char d :: before, after, rfl, congrArg (d :: ·) hbefore, hafter⟩

/-- The visible text is part of the dump. -/
theorem strip_sublist (t : Text) : (strip t).Sublist t := by
  induction t using pieces_induction with
  | nil => exact .slnil
  | char c rest hc ih =>
    rw [strip_char hc]
    exact ih.cons_cons c
  | sequence rest n h ih =>
    rw [strip_sequence h]
    exact (ih.trans (List.drop_sublist n rest)).cons esc
  | stray rest h ih =>
    rw [strip_stray h]
    exact ih.cons_cons esc

theorem not_mem_strip {t : Text} (h : c ∉ t) : c ∉ strip t :=
  fun hc => h ((strip_sublist t).subset hc)

end Pieces

/-! ## Dumps one after the other -/

/-- The piece is a string command that has not been terminated. -/
def Piece.IsOpen : Piece → Prop
  | .char _ => False
  | .sequence raw => Screen.IsOpen raw.tail

/-- The dump ends inside a string command. -/
def EndsOpen (t : Text) : Prop := ∃ piece ∈ (pieces t).getLast?, piece.IsOpen

instance (piece : Piece) : Decidable piece.IsOpen := by
  cases piece <;> unfold Piece.IsOpen <;> infer_instance

instance (t : Text) : Decidable (EndsOpen t) := inferInstanceAs (Decidable (∃ _ ∈ _, _))

section Append

variable {t rest b : Text}

/-- A dump ends inside a string command if its rest does, or if the command is its last piece. -/
theorem endsOpen_iff {piece : Piece} (h : pieces t = piece :: pieces rest) :
    EndsOpen t ↔ (rest = [] ∧ piece.IsOpen) ∨ EndsOpen rest := by
  unfold EndsOpen
  rw [h]
  by_cases hrest : rest = []
  · subst hrest
    simp [pieces_nil]
  · obtain ⟨next, later, hnext⟩ := List.exists_cons_of_ne_nil (mt pieces_eq_nil_iff.mp hrest)
    rw [hnext, List.getLast?_cons_cons]
    simp [hrest]

theorem endsOpen_char {c : Char} (hc : c ≠ esc) : EndsOpen (c :: rest) ↔ EndsOpen rest := by
  rw [endsOpen_iff (pieces_char hc)]
  simp [Piece.IsOpen]

theorem endsOpen_stray (h : sequenceLength? rest = none) :
    EndsOpen (esc :: rest) ↔ EndsOpen rest := by
  rw [endsOpen_iff (pieces_stray h)]
  simp [Piece.IsOpen]

theorem endsOpen_sequence {n : Nat} (h : sequenceLength? rest = some n) :
    EndsOpen (esc :: rest) ↔ IsOpen rest ∨ EndsOpen (rest.drop n) := by
  rw [endsOpen_iff (pieces_sequence h)]
  refine or_congr_left ?_
  show rest.drop n = [] ∧ IsOpen (rest.take n) ↔ IsOpen rest
  constructor
  · rintro ⟨hdrop, hopen⟩
    rwa [List.take_of_length_le (List.drop_eq_nil_iff.mp hdrop)] at hopen
  · intro hopen
    obtain rfl := isOpen_length hopen h
    rw [List.drop_length, List.take_length]
    exact ⟨rfl, hopen⟩

/-- A terminator shows nothing, whether it terminates a string command or stands alone. -/
theorem strip_drop_terminatorLength (h : b.head? = some esc) :
    strip (b.drop (terminatorLength b)) = strip b := by
  obtain ⟨rest, rfl⟩ := List.head?_eq_some_iff.mp h
  by_cases hrest : rest.head? = some '\\'
  · obtain ⟨later, rfl⟩ := List.head?_eq_some_iff.mp hrest
    have hsequence : sequenceLength? ('\\' :: later) = some 1 := by
      rw [sequenceLength?_short (by decide) (by decide) (by decide), shortLength?,
        List.takeWhile_cons_of_neg (by decide), List.dropWhile_cons_of_neg (by decide)]
      rfl
    rw [strip_sequence hsequence]
    rfl
  · have hzero : terminatorLength (esc :: rest) = 0 := by
      unfold terminatorLength
      split
      · next he =>
        rw [(List.cons.inj he).2] at hrest
        exact absurd rfl hrest
      · rfl
    rw [hzero, List.drop_zero]

/-- In front of a text that starts anew the visible text of a dump stays what it is, and so does
that of the text after it, but for a line feed and more that an open string command takes. -/
theorem strip_append (hb : StartsAnew b) (t : Text) :
    ∃ n, strip (t ++ b) = strip t ++ strip (b.drop n) ∧ (¬ EndsOpen t → n = 0) ∧
      (EndsOpen t → b.head? = some '\n' → 1 ≤ n) ∧
      (b.head? = some esc → strip (b.drop n) = strip b) := by
  induction t using pieces_induction with
  | nil =>
    have hnot : ¬ EndsOpen [] := by simp [EndsOpen, pieces_nil]
    exact ⟨0, rfl, fun _ => rfl, fun h => absurd h hnot, fun _ => rfl⟩
  | char c rest hc ih =>
    obtain ⟨n, hstrip, hclosed, hopen, hesc⟩ := ih
    refine ⟨n, ?_, ?_, ?_, hesc⟩
    · rw [List.cons_append, strip_char hc, strip_char hc, hstrip, List.cons_append]
    · rwa [endsOpen_char hc]
    · rwa [endsOpen_char hc]
  | stray rest h ih =>
    obtain ⟨n, hstrip, hclosed, hopen, hesc⟩ := ih
    have happend : sequenceLength? (rest ++ b) = none := by
      rw [sequenceLength?_append hb (not_isOpen_of_none h), h]
    refine ⟨n, ?_, ?_, ?_, hesc⟩
    · rw [List.cons_append, strip_stray happend, strip_stray h, hstrip, List.cons_append]
    · rwa [endsOpen_stray h]
    · rwa [endsOpen_stray h]
  | sequence rest n h ih =>
    rw [endsOpen_sequence h, List.cons_append, strip_sequence h]
    by_cases hrest : IsOpen rest
    · obtain ⟨m, happend, hfeed, hesc⟩ := sequenceLength?_append_of_isOpen hrest b
      refine ⟨m, ?_, fun hclosed => absurd (Or.inl hrest) hclosed, fun _ => hfeed, ?_⟩
      · rw [strip_sequence happend, isOpen_length hrest h, List.drop_length,
          List.drop_length_add_append, strip_nil, List.nil_append]
      · intro hhead
        rw [hesc hhead, strip_drop_terminatorLength hhead]
    · obtain ⟨m, hstrip, hclosed, hopen, hesc⟩ := ih
      have happend : sequenceLength? (rest ++ b) = some n := by
        rw [sequenceLength?_append hb hrest, h]
      refine ⟨m, ?_, ?_, ?_, hesc⟩
      · rw [strip_sequence happend, List.drop_append_of_le_length (sequenceLength?_le h), hstrip]
      · exact fun hno => hclosed fun hlast => hno (Or.inr hlast)
      · exact fun hlast => hopen (hlast.resolve_left hrest)

theorem strip_append_of_not_endsOpen (hb : StartsAnew b) (h : ¬ EndsOpen t) :
    strip (t ++ b) = strip t ++ strip b := by
  obtain ⟨n, hstrip, hclosed, -⟩ := strip_append hb t
  rw [hstrip, hclosed h, List.drop_zero]

/-- An escape character ends whatever stands before it. -/
theorem strip_append_of_esc (hb : b.head? = some esc) (t : Text) :
    strip (t ++ b) = strip t ++ strip b := by
  have hanew : StartsAnew b := by
    intro c hc
    rw [hb, Option.mem_some_iff] at hc
    exact Or.inr (Or.inr hc.symm)
  obtain ⟨n, hstrip, -, -, hesc⟩ := strip_append hanew t
  rw [hstrip, hesc hb]

end Append

end TermPilot.Screen
