import Mathlib.Data.List.Chain
import TermPilot.Proofs.Text.Parts
import TermPilot.Screen.Clean

/-!
# The tokens of a line

The tokens of a line make it up again, an escape starts with an escape character, and two runs of
text never stand side by side. So what is trimmed off the end of a line starts with an escape
character, unless nothing is left of the line.
-/

namespace TermPilot.Screen

open Terminal

/-! ## The cut -/

/-- The token is a run of text. -/
def Token.IsText (token : Token) : Prop := ∃ t, token = .text t

/-- Tokens as a line is cut into them. -/
structure WellCut (line : List Token) : Prop where
  /-- Every escape starts with an escape character. -/
  escapes : ∀ raw, Token.escape raw ∈ line → ∃ body, raw = esc :: body
  /-- No two runs of text stand side by side. -/
  apart : line.IsChain fun first second => ¬ (first.IsText ∧ second.IsText)

section WellCut

variable {line : List Token}

theorem wellCut_nil : WellCut [] := ⟨fun _ h => absurd h List.not_mem_nil, .nil⟩

theorem WellCut.escape_cons (h : WellCut line) (body : Text) :
    WellCut (.escape (esc :: body) :: line) := by
  refine ⟨?_, List.isChain_cons.mpr ⟨?_, h.apart⟩⟩
  · intro raw hraw
    rcases List.mem_cons.mp hraw with hraw | hraw
    · exact ⟨body, Token.escape.inj hraw⟩
    · exact h.escapes raw hraw
  · rintro second - ⟨⟨t, ht⟩, -⟩
    cases ht

theorem WellCut.text_cons (h : WellCut line) (hhead : ∀ token ∈ line.head?, ¬ token.IsText)
    (t : Text) : WellCut (.text t :: line) := by
  refine ⟨?_, List.isChain_cons.mpr ⟨?_, h.apart⟩⟩
  · intro raw hraw
    rcases List.mem_cons.mp hraw with hraw | hraw
    · cases hraw
    · exact h.escapes raw hraw
  · rintro second hsecond ⟨-, htext⟩
    exact hhead second hsecond htext

theorem WellCut.tail {token : Token} (h : WellCut (token :: line)) : WellCut line :=
  ⟨fun raw hraw => h.escapes raw (List.mem_cons_of_mem _ hraw), h.apart.tail⟩

/-- After a run of text there is an escape. -/
theorem WellCut.not_isText_head {t : Text} (h : WellCut (.text t :: line)) :
    ∀ token ∈ line.head?, ¬ token.IsText := by
  intro token htoken htext
  exact (List.isChain_cons.mp h.apart).1 token htoken ⟨⟨t, rfl⟩, htext⟩

end WellCut

/-! ## Steps -/

section Steps

variable {c : Char} {rest : Text}

theorem tokens_esc (rest : Text) :
    tokens (esc :: rest) = .escape (esc :: (escapeBody rest).1) :: (escapeBody rest).2 := by
  rw [tokens, if_pos rfl]

theorem tokens_text_cons (hc : c ≠ esc) {t : Text} {later : List Token}
    (h : tokens rest = .text t :: later) : tokens (c :: rest) = .text (c :: t) :: later := by
  rw [tokens, if_neg hc, h]

theorem tokens_text_start (hc : c ≠ esc) (h : ∀ token ∈ (tokens rest).head?, ¬ token.IsText) :
    tokens (c :: rest) = .text [c] :: tokens rest := by
  rw [tokens, if_neg hc]
  split
  · next t later ht =>
    rw [ht] at h
    exact absurd ⟨t, rfl⟩ (h (.text t) rfl)
  · rfl

/-- A line starts with a run of text, or it does not. -/
theorem tokens_head_cases (line : Text) :
    (∃ t later, tokens line = .text t :: later) ∨
      ∀ token ∈ (tokens line).head?, ¬ token.IsText := by
  by_cases htext : ∃ t later, tokens line = .text t :: later
  · exact Or.inl htext
  · refine Or.inr ?_
    rintro token htoken ⟨t, rfl⟩
    obtain ⟨later, hlater⟩ := List.head?_eq_some_iff.mp htoken
    exact htext ⟨t, later, hlater⟩

theorem escapeBody_last (hc : endsEscape c = true) :
    escapeBody (c :: rest) = ([c], tokens rest) := by
  rw [escapeBody, if_pos hc]

theorem escapeBody_more (hc : ¬ endsEscape c = true) :
    escapeBody (c :: rest) = (c :: (escapeBody rest).1, (escapeBody rest).2) := by
  rw [escapeBody, if_neg hc]

end Steps

/-- The tokens of a line make it up, and so do the rest of an escape and the tokens after it. -/
theorem tokens_escapeBody (line : Text) :
    ((tokens line).flatMap Token.raw = line ∧ WellCut (tokens line)) ∧
      (escapeBody line).1 ++ (escapeBody line).2.flatMap Token.raw = line ∧
        WellCut (escapeBody line).2 := by
  induction line with
  | nil => exact ⟨⟨by simp [tokens], by rw [tokens]; exact wellCut_nil⟩,
      by simp [escapeBody], by rw [escapeBody]; exact wellCut_nil⟩
  | cons c rest ih =>
    obtain ⟨⟨hraw, hcut⟩, hbody, hlater⟩ := ih
    constructor
    · by_cases hc : c = esc
      · subst hc
        rw [tokens_esc, List.flatMap_cons]
        exact ⟨congrArg (esc :: ·) hbody, hlater.escape_cons _⟩
      · rcases tokens_head_cases rest with ⟨t, later, ht⟩ | hhead
        · rw [ht] at hraw hcut
          rw [tokens_text_cons hc ht, List.flatMap_cons]
          exact ⟨congrArg (c :: ·) hraw, hcut.tail.text_cons hcut.not_isText_head _⟩
        · rw [tokens_text_start hc hhead, List.flatMap_cons]
          exact ⟨congrArg (c :: ·) hraw, hcut.text_cons hhead _⟩
    · by_cases hc : endsEscape c = true
      · rw [escapeBody_last hc]
        exact ⟨congrArg (c :: ·) hraw, hcut⟩
      · rw [escapeBody_more hc]
        exact ⟨congrArg (c :: ·) hbody, hlater⟩

theorem flatMap_tokens (line : Text) : (tokens line).flatMap Token.raw = line :=
  (tokens_escapeBody line).1.1

theorem wellCut_tokens (line : Text) : WellCut (tokens line) := (tokens_escapeBody line).1.2

/-! ## What is trimmed off a line -/

theorem Token.isText_of_isVisible {token : Token} (h : token.isVisible = true) :
    token.IsText := by
  cases token with
  | text t => exact ⟨t, rfl⟩
  | escape raw => exact absurd h (by simp [Token.isVisible, Token.shown, Text.isBlankText])

theorem isVisible_of_mem_getLast? {line : List Token} {token : Token}
    (h : token ∈ (line.rdropWhile fun token => !token.isVisible).getLast?) :
    token.isVisible = true := by
  simpa using Text.not_of_mem_getLast?_rdropWhile h

/-- Tokens that follow a run of text start with an escape character. -/
theorem WellCut.head_flatMap_raw {kept dropped : List Token} (h : WellCut (kept ++ dropped))
    (hlast : ∀ token ∈ kept.getLast?, token.IsText) (hne : kept ≠ []) :
    ∀ c ∈ (dropped.flatMap Token.raw).head?, c = esc := by
  intro c hc
  cases dropped with
  | nil => simp at hc
  | cons token rest =>
    have hkept : kept.getLast? = some (kept.getLast hne) := List.getLast?_eq_getLast_of_ne_nil hne
    have hnot : ¬ token.IsText := by
      intro htext
      exact (List.isChain_append.mp h.apart).2.2 _ hkept token rfl ⟨hlast _ hkept, htext⟩
    cases token with
    | text t => exact absurd ⟨t, rfl⟩ hnot
    | escape raw =>
      obtain ⟨body, rfl⟩ := h.escapes raw (List.mem_append_right _ List.mem_cons_self)
      simpa [Token.raw, eq_comm] using hc

/-- What is trimmed off the end of a line. -/
def trimmedOff (line : Text) : Text := line.drop (cleanLine line).length

/-- A trimmed line has the tokens up to the last visible one. -/
theorem cleanLine_eq (line : Text) : cleanLine line =
    ((tokens line).rdropWhile fun token => !token.isVisible).flatMap Token.raw := rfl

/-- The tokens after the last visible one are trimmed off. -/
theorem trimmedOff_eq (line : Text) : trimmedOff line =
    ((tokens line).rtakeWhile fun token => !token.isVisible).flatMap Token.raw := by
  have hline : cleanLine line ++
      ((tokens line).rtakeWhile fun token => !token.isVisible).flatMap Token.raw = line := by
    rw [cleanLine_eq, ← List.flatMap_append, List.rdropWhile_append_rtakeWhile, flatMap_tokens]
  rw [trimmedOff]
  nth_rewrite 2 [← hline]
  exact List.drop_left

theorem cleanLine_append_trimmedOff (line : Text) : cleanLine line ++ trimmedOff line = line := by
  rw [trimmedOff_eq, cleanLine_eq, ← List.flatMap_append, List.rdropWhile_append_rtakeWhile,
    flatMap_tokens]

theorem cleanLine_isPrefix (line : Text) : cleanLine line <+: line :=
  ⟨trimmedOff line, cleanLine_append_trimmedOff line⟩

/-- What is trimmed off a line starts with an escape character, unless all of the line is. -/
theorem trimmedOff_head (line : Text) :
    cleanLine line = [] ∨ ∀ c ∈ (trimmedOff line).head?, c = esc := by
  by_cases hne : ((tokens line).rdropWhile fun token => !token.isVisible) = []
  · left
    rw [cleanLine_eq, hne]
    rfl
  · right
    have hwell : WellCut (((tokens line).rdropWhile fun token => !token.isVisible) ++
        (tokens line).rtakeWhile fun token => !token.isVisible) := by
      rw [List.rdropWhile_append_rtakeWhile]
      exact wellCut_tokens line
    rw [trimmedOff_eq]
    exact hwell.head_flatMap_raw
      (fun token htoken => Token.isText_of_isVisible (isVisible_of_mem_getLast? htoken)) hne

end TermPilot.Screen
