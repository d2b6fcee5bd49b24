import TermPilot.Proofs.Screen.Cut
import TermPilot.Proofs.Screen.Pieces
import TermPilot.Screen.Colour

/-!
# Styled text

Text whose only escape sequences select styles. In such text the two cuts of a line, into tokens
and into pieces, find the same escapes, so that nothing visible is trimmed off the end of a line.
-/

namespace TermPilot.Screen

open Terminal

/-! ## Sequences that select styles -/

/-- The sequence that selects a style by parameters. -/
def sgrSequence (parameters : Text) : Text := esc :: '[' :: (parameters ++ ['m'])

/-- The text can stand as the parameters of a sequence that selects a style. -/
def IsParameters (t : Text) : Prop := ∀ c ∈ t, isSgrParameter c = true

section Parameters

variable {c : Char} {parameters : Text}

theorem bounds_of_isSgrParameter (h : isSgrParameter c = true) :
    0x30 ≤ c.toNat ∧ c.toNat ≤ 0x3B := by
  simp only [isSgrParameter, Bool.or_eq_true, decide_eq_true_eq] at h
  rcases h with (hdigit | rfl) | rfl
  · simp only [Char.isDigit, Bool.and_eq_true, decide_eq_true_eq, ge_iff_le,
      UInt32.le_iff_toNat_le] at hdigit
    have hlow : 48 ≤ c.toNat := hdigit.1
    have hhigh : c.toNat ≤ 57 := hdigit.2
    omega
  · decide
  · decide

theorem isParameter_of_isSgrParameter (h : isSgrParameter c = true) : isParameter c = true := by
  obtain ⟨hlow, hhigh⟩ := bounds_of_isSgrParameter h
  simp only [isParameter, between, Bool.and_eq_true, decide_eq_true_eq]
  omega

theorem not_endsEscape_of_isSgrParameter (h : isSgrParameter c = true) :
    ¬ endsEscape c = true := by
  obtain ⟨-, hhigh⟩ := bounds_of_isSgrParameter h
  have hvalue : c.val.toNat ≤ 0x3B := hhigh
  have hends : endsEscape c = (decide ('A'.val ≤ c.val ∧ c.val ≤ 'Z'.val) ||
      (decide ('a'.val ≤ c.val) && decide (c.val ≤ 'z'.val)) || decide (c = '~')) := rfl
  simp only [hends, Bool.or_eq_true, Bool.and_eq_true, decide_eq_true_eq, UInt32.le_iff_toNat_le]
  rintro ((⟨hlow, -⟩ | ⟨hlow, -⟩) | rfl)
  · exact absurd (Nat.le_trans hlow hvalue) (by decide)
  · exact absurd (Nat.le_trans hlow hvalue) (by decide)
  · exact absurd hhigh (by decide)

theorem ne_of_isSgrParameter (h : isSgrParameter c = true) {d : Char}
    (hd : isSgrParameter d = false) : c ≠ d := by
  rintro rfl
  exact Bool.noConfusion (h.symm.trans hd)

/-- The sequence is cut off a text as a control sequence. -/
theorem sequenceLength?_sgr (hp : IsParameters parameters) (rest : Text) :
    sequenceLength? ('[' :: (parameters ++ 'm' :: rest)) = some (parameters.length + 2) := by
  have hparameters : ∀ c ∈ parameters, isParameter c = true :=
    fun c hc => isParameter_of_isSgrParameter (hp c hc)
  have htake : (parameters ++ 'm' :: rest).takeWhile isParameter = parameters := by
    rw [List.takeWhile_append_of_pos hparameters, List.takeWhile_cons_of_neg (by decide),
      List.append_nil]
  have hdrop : (parameters ++ 'm' :: rest).dropWhile isParameter = 'm' :: rest := by
    rw [List.dropWhile_append_of_pos hparameters, List.dropWhile_cons_of_neg (by decide)]
  have hlength : controlLength? (parameters ++ 'm' :: rest) = some (parameters.length + 1) := by
    simp only [controlLength?, htake, hdrop]
    rfl
  rw [sequenceLength?_control, hlength]
  rfl

theorem pieces_sgr (hp : IsParameters parameters) (rest : Text) :
    pieces (sgrSequence parameters ++ rest) =
      .sequence (sgrSequence parameters) :: pieces rest := by
  have hcut : '[' :: (parameters ++ 'm' :: rest) = ('[' :: (parameters ++ ['m'])) ++ rest := by
    simp
  have hlength : ('[' :: (parameters ++ ['m'])).length = parameters.length + 2 := by simp
  have hwhole : sgrSequence parameters ++ rest = esc :: '[' :: (parameters ++ 'm' :: rest) := by
    simp [sgrSequence]
  rw [hwhole, pieces_sequence (sequenceLength?_sgr hp rest), hcut, ← hlength, List.take_left,
    List.drop_left]
  rfl

/-- The parameters are read back from the sequence. -/
theorem sgrParameters?_sgr (hp : IsParameters parameters) :
    sgrParameters? (sgrSequence parameters) = some parameters := by
  have htake : (parameters ++ ['m']).takeWhile isSgrParameter = parameters := by
    rw [List.takeWhile_append_of_pos hp, List.takeWhile_cons_of_neg (by decide), List.append_nil]
  have hdrop : (parameters ++ ['m']).dropWhile isSgrParameter = ['m'] := by
    rw [List.dropWhile_append_of_pos hp, List.dropWhile_cons_of_neg (by decide)]
  have hcut : cutSgr? (sgrSequence parameters) = some (parameters, []) := by
    simp only [cutSgr?, sgrSequence, if_pos, htake, hdrop]
  rw [sgrParameters?, hcut]

theorem tokens_sgr (hp : IsParameters parameters) (rest : Text) :
    tokens (sgrSequence parameters ++ rest) = .escape (sgrSequence parameters) :: tokens rest := by
  have hwhole : sgrSequence parameters ++ rest = esc :: '[' :: (parameters ++ 'm' :: rest) := by
    simp [sgrSequence]
  have hbody : ∀ c ∈ parameters, ¬ endsEscape c = true :=
    fun c hc => not_endsEscape_of_isSgrParameter (hp c hc)
  rw [hwhole, tokens_esc, escapeBody_more (by decide), escapeBody_append hbody (by decide)]
  rfl

theorem not_mem_sgr (hp : IsParameters parameters) {d : Char} (hd : isSgrParameter d = false)
    (hesc : d ≠ esc) (hbracket : d ≠ '[') (hfinal : d ≠ 'm') : d ∉ sgrSequence parameters := by
  have hnot : d ∉ parameters := fun hmem => ne_of_isSgrParameter (hp d hmem) hd rfl
  simp [sgrSequence, hnot, hesc, hbracket, hfinal]

end Parameters

/-! ## Text with such sequences -/

/-- Text that is made of characters and of sequences that select styles. -/
inductive IsStyled : Text → Prop where
  /-- The empty text. -/
  | nil : IsStyled []
  /-- A character in front of styled text. -/
  | char {c : Char} {rest : Text} (hc : c ≠ esc) (h : IsStyled rest) : IsStyled (c :: rest)
  /-- A sequence in front of styled text. -/
  | sequence {parameters rest : Text} (hp : IsParameters parameters) (h : IsStyled rest) :
    IsStyled (sgrSequence parameters ++ rest)

section Styled

variable {a b t line : Text}

theorem isStyled_of_not_mem (h : esc ∉ t) : IsStyled t := by
  induction t with
  | nil => exact .nil
  | cons c rest ih =>
    rw [List.mem_cons, not_or] at h
    exact .char (Ne.symm h.1) (ih h.2)

theorem IsStyled.append (ha : IsStyled a) (hb : IsStyled b) : IsStyled (a ++ b) := by
  induction ha with
  | nil => exact hb
  | char hc _ ih => exact .char hc ih
  | sequence hp _ ih =>
    rw [List.append_assoc]
    exact .sequence hp ih

theorem strip_sgr_append {parameters : Text} (hp : IsParameters parameters) (rest : Text) :
    strip (sgrSequence parameters ++ rest) = strip rest := by
  rw [strip, pieces_sgr hp]
  rfl

theorem strip_append_of_not_mem (h : esc ∉ a) (b : Text) : strip (a ++ b) = a ++ strip b := by
  rw [strip, pieces_append_of_not_mem h, List.flatMap_append, flatMap_visible_char]
  rfl

/-- Styled text has no string command, so none is open at its end. -/
theorem IsStyled.not_endsOpen (h : IsStyled t) : ¬ EndsOpen t := by
  induction h with
  | nil => simp [EndsOpen, pieces_nil]
  | char hc _ ih => rwa [endsOpen_char hc]
  | @sequence parameters rest hp _ ih =>
    rw [endsOpen_iff (pieces_sgr hp rest), not_or]
    refine ⟨?_, ih⟩
    rintro ⟨-, hopen⟩
    have hintroducer : ¬ IsOpen ('[' :: (parameters ++ ['m'])) := by
      rintro (⟨hc, -⟩ | ⟨hc, -⟩)
      · exact absurd hc (by decide)
      · exact absurd hc (by decide)
    exact hintroducer hopen

/-! ## Tokens of styled text -/

/-- A token that the cut into pieces finds as well: text, or a sequence that selects a style. -/
def Token.IsExact : Token → Prop
  | .text t => esc ∉ t
  | .escape raw => ∃ parameters, IsParameters parameters ∧ raw = sgrSequence parameters

theorem IsStyled.tokens_isExact (h : IsStyled line) : ∀ token ∈ tokens line, token.IsExact := by
  induction h with
  | nil => simp [tokens]
  | @char c rest hc _ ih =>
    intro token htoken
    rcases tokens_head_cases rest with ⟨t, later, hcut⟩ | hnone
    · rw [hcut, List.forall_mem_cons] at ih
      rw [tokens_text_cons hc hcut] at htoken
      rcases List.mem_cons.mp htoken with rfl | hlater
      · exact fun hmem => (List.mem_cons.mp hmem).elim (fun he => hc he.symm) ih.1
      · exact ih.2 token hlater
    · rw [tokens_text_start hc hnone] at htoken
      rcases List.mem_cons.mp htoken with rfl | hlater
      · exact fun hmem => hc (List.mem_singleton.mp hmem).symm
      · exact ih token hlater
  | @sequence parameters rest hp _ ih =>
    rw [tokens_sgr hp, List.forall_mem_cons]
    exact ⟨⟨parameters, hp, rfl⟩, ih⟩

theorem isStyled_flatMap_raw {cut : List Token} (h : ∀ token ∈ cut, token.IsExact) :
    IsStyled (cut.flatMap Token.raw) := by
  induction cut with
  | nil => exact .nil
  | cons token later ih =>
    obtain ⟨htoken, hlater⟩ := List.forall_mem_cons.mp h
    rw [List.flatMap_cons]
    cases token with
    | text t => exact (isStyled_of_not_mem htoken).append (ih hlater)
    | escape raw =>
      obtain ⟨parameters, hp, rfl⟩ := htoken
      exact .sequence hp (ih hlater)

/-- Tokens that both cuts find show the same in both of them. -/
theorem strip_flatMap_raw {cut : List Token} (h : ∀ token ∈ cut, token.IsExact) :
    strip (cut.flatMap Token.raw) = cut.flatMap Token.shown := by
  induction cut with
  | nil => rfl
  | cons token later ih =>
    obtain ⟨htoken, hlater⟩ := List.forall_mem_cons.mp h
    rw [List.flatMap_cons, List.flatMap_cons]
    cases token with
    | text t => exact (strip_append_of_not_mem htoken _).trans (congrArg (t ++ ·) (ih hlater))
    | escape raw =>
      obtain ⟨parameters, hp, rfl⟩ := htoken
      exact (strip_sgr_append hp _).trans (ih hlater)

theorem IsStyled.cleanLine (h : IsStyled line) : IsStyled (cleanLine line) := by
  refine isStyled_flatMap_raw fun token htoken => h.tokens_isExact token ?_
  exact (List.rdropWhile_prefix _ (tokens line)).subset htoken

/-- What is trimmed off a styled line shows nothing but blanks. -/
theorem IsStyled.isBlankLine_trimmedOff (h : IsStyled line) :
    isBlankLine (trimmedOff line) = true := by
  have hexact : ∀ token ∈ (tokens line).rtakeWhile fun token => !token.isVisible,
      token.IsExact :=
    fun token htoken => h.tokens_isExact token ((List.rtakeWhile_suffix _ _).subset htoken)
  rw [trimmedOff_eq, isBlankLine, strip_flatMap_raw hexact, Text.isBlankText, List.all_flatMap,
    List.all_eq_true]
  intro token htoken
  have hinvisible := List.mem_rtakeWhile_imp htoken
  simpa [Token.isVisible, Text.isBlankText] using hinvisible

end Styled

end TermPilot.Screen
