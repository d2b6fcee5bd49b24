import TermPilot.Proofs.Screen.Tokens

/-!
# The cut of a line into tokens

The grammar of the tokens of a line: runs of text with an escape between any two of them, and escapes
that reach through the first character that ends one; only the last escape may reach the end of the
line without such a character. A list of tokens of this grammar is the cut of the line that the
tokens make up, and so is every beginning of the list.
-/

namespace TermPilot.Screen

open Terminal

/-! ## The grammar -/

/-- Tokens as a line is cut into them. -/
inductive IsCut : List Token → Prop where
  /-- The empty line has no tokens. -/
  | nil : IsCut []
  /-- A run of text in front of an escape or of nothing. -/
  | text {t : Text} {later : List Token} (hne : t ≠ []) (hesc : esc ∉ t)
      (hhead : ∀ token ∈ later.head?, ¬ token.IsText) (h : IsCut later) : IsCut (.text t :: later)
  /-- An escape that is ended by its last character. -/
  | escape {body : Text} {last : Char} {later : List Token}
      (hbody : ∀ c ∈ body, ¬ endsEscape c = true) (hlast : endsEscape last = true)
      (h : IsCut later) : IsCut (.escape (esc :: (body ++ [last])) :: later)
  /-- An escape that the end of the line ends. -/
  | dangling {body : Text} (hbody : ∀ c ∈ body, ¬ endsEscape c = true) :
      IsCut [.escape (esc :: body)]

section Tokens

variable {t body rest : Text} {last : Char} {cut later : List Token}

theorem tokens_text_append (hne : t ≠ []) (hesc : esc ∉ t)
    (hhead : ∀ token ∈ (tokens rest).head?, ¬ token.IsText) :
    tokens (t ++ rest) = .text t :: tokens rest := by
  induction t with
  | nil => exact absurd rfl hne
  | cons c t ih =>
    rw [List.mem_cons, not_or] at hesc
    rw [List.cons_append]
    cases t with
    | nil => exact tokens_text_start (Ne.symm hesc.1) hhead
    | cons d t => exact tokens_text_cons (Ne.symm hesc.1) (ih (List.cons_ne_nil d t) hesc.2)

theorem escapeBody_append (hbody : ∀ c ∈ body, ¬ endsEscape c = true)
    (hlast : endsEscape last = true) (rest : Text) :
    escapeBody (body ++ last :: rest) = (body ++ [last], tokens rest) := by
  induction body with
  | nil => exact escapeBody_last hlast
  | cons c body ih =>
    obtain ⟨hc, hlater⟩ := List.forall_mem_cons.mp hbody
    rw [List.cons_append, escapeBody_more hc, ih hlater]
    rfl

theorem escapeBody_dangling (hbody : ∀ c ∈ body, ¬ endsEscape c = true) :
    escapeBody body = (body, []) := by
  induction body with
  | nil => rw [escapeBody]
  | cons c body ih =>
    obtain ⟨hc, hlater⟩ := List.forall_mem_cons.mp hbody
    rw [escapeBody_more hc, ih hlater]

/-- Tokens of the grammar are the tokens of the line that they make up. -/
theorem IsCut.tokens_flatMap_raw (h : IsCut cut) : tokens (cut.flatMap Token.raw) = cut := by
  induction h with
  | nil => simp [tokens]
  | @text t later hne hesc hhead _ ih =>
    have hstart : ∀ token ∈ (tokens (later.flatMap Token.raw)).head?, ¬ token.IsText := by
      rwa [ih]
    have htokens := tokens_text_append hne hesc hstart
    rw [List.flatMap_cons, Token.raw, htokens, ih]
  | @escape body last later hbody hlast _ ih =>
    have hraw : (Token.escape (esc :: (body ++ [last])) :: later).flatMap Token.raw =
        esc :: (body ++ last :: later.flatMap Token.raw) := by
      simp [Token.raw]
    rw [hraw, tokens_esc, escapeBody_append hbody hlast, ih]
  | @dangling body hbody =>
    have hraw : [Token.escape (esc :: body)].flatMap Token.raw = esc :: body := by
      simp [Token.raw]
    rw [hraw, tokens_esc, escapeBody_dangling hbody]

/-- The tokens of a line are of the grammar, and so are those of the line behind an escape
character. -/
theorem isCut_tokens_escapeBody (line : Text) :
    IsCut (tokens line) ∧
      IsCut (.escape (esc :: (escapeBody line).1) :: (escapeBody line).2) := by
  induction line with
  | nil => exact ⟨by rw [tokens]; exact .nil, by rw [escapeBody]; exact .dangling (by simp)⟩
  | cons c rest ih =>
    obtain ⟨htokens, hescape⟩ := ih
    constructor
    · by_cases hc : c = esc
      · rw [hc, tokens_esc]
        exact hescape
      · rcases tokens_head_cases rest with ⟨t, later, ht⟩ | hhead
        · rw [ht] at htokens
          rw [tokens_text_cons hc ht]
          cases htokens with
          | text hne hesc hhead h =>
            refine .text (List.cons_ne_nil c t) ?_ hhead h
            rw [List.mem_cons, not_or]
            exact ⟨Ne.symm hc, hesc⟩
        · rw [tokens_text_start hc hhead]
          exact .text (List.cons_ne_nil c []) (by simpa using Ne.symm hc) hhead htokens
    · by_cases hc : endsEscape c = true
      · rw [escapeBody_last hc]
        exact @IsCut.escape [] c _ (by simp) hc htokens
      · rw [escapeBody_more hc]
        generalize (escapeBody rest).1 = body at hescape ⊢
        generalize (escapeBody rest).2 = later at hescape ⊢
        cases hescape with
        | @escape body last later hbody hlast h =>
          exact @IsCut.escape (c :: body) last later (List.forall_mem_cons.mpr ⟨hc, hbody⟩) hlast h
        | dangling hbody => exact .dangling (List.forall_mem_cons.mpr ⟨hc, hbody⟩)

theorem isCut_tokens (line : Text) : IsCut (tokens line) := (isCut_tokens_escapeBody line).1

theorem IsCut.of_append (h : IsCut (cut ++ later)) : IsCut cut := by
  induction cut with
  | nil => exact .nil
  | cons token cut ih =>
    rw [List.cons_append] at h
    generalize hall : cut ++ later = all at h ih
    cases h with
    | text hne hesc hhead hlater =>
      refine .text hne hesc (fun token htoken => hhead token ?_) (ih hlater)
      rw [← hall, List.head?_append, Option.mem_def.mp htoken]
      rfl
    | escape hbody hlast hlater => exact .escape hbody hlast (ih hlater)
    | dangling hbody =>
      rw [(List.append_eq_nil_iff.mp hall).1]
      exact .dangling hbody

/-- The last run of text of a cut may be a shorter one. -/
theorem IsCut.concat_text {s : Text} (h : IsCut (cut ++ [.text t])) (hne : s ≠ []) (hs : s <+: t) :
    IsCut (cut ++ [.text s]) := by
  induction cut with
  | nil =>
    cases h with
    | text _ hesc _ _ => exact .text hne (fun hmem => hesc (hs.subset hmem)) (by simp) .nil
  | cons token cut ih =>
    rw [List.cons_append] at h ⊢
    generalize hall : cut ++ [.text t] = all at h ih
    cases h with
    | text hne' hesc hhead hlater =>
      refine .text hne' hesc ?_ (ih hlater)
      cases cut with
      | nil => exact absurd ⟨t, rfl⟩ (hhead (.text t) (by rw [← hall]; rfl))
      | cons first cut =>
        rw [← hall] at hhead
        exact hhead
    | escape hbody hlast hlater => exact .escape hbody hlast (ih hlater)
    | dangling hbody => simp at hall

end Tokens

end TermPilot.Screen
