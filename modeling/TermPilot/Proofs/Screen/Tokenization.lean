import TermPilot.Proofs.Screen.Cut

/-!
# The tokens of a line by their fields

A token is told by its kind, its characters and those of them that are shown. Which lists of such
fields are the tokens of a line can be said without cutting the line: what a single token must be,
which neighbours it may have, and where it may end. Only one list fits a line, and what is left of
it when its end is taken away fits the line that is left.
-/

namespace TermPilot.Screen

open Terminal

/-! ## Fields -/

/-- The kinds of tokens. -/
inductive TokenKind where
  | text
  | escape

/-- The fields of a token. Nothing says that they go together. -/
structure TokenFields where
  kind : TokenKind
  raw : Text
  shown : Text

def Token.kind : Token → TokenKind
  | .text _ => .text
  | .escape _ => .escape

def Token.fields (token : Token) : TokenFields := ⟨token.kind, token.raw, token.shown⟩

/-- The characters that fields make up together. -/
def joined (cut : List TokenFields) : Text := cut.flatMap TokenFields.raw

/-- The fields of a run of text. -/
structure TokenFields.IsRun (token : TokenFields) : Prop where
  ne_nil : token.raw ≠ []
  esc_not_mem : esc ∉ token.raw
  shown_eq : token.shown = token.raw

/-- The fields of an escape that `after` follows on the line. -/
structure TokenFields.IsEscape (after : Text) (token : TokenFields) : Prop where
  starts : token.raw.head? = some esc
  shown_eq : token.shown = []
  goesOn : ∀ c ∈ token.raw.dropLast, ¬ endsEscape c = true
  ends : (∃ c ∈ token.raw.getLast?, endsEscape c = true) ∨ after = []

/-- The fields are those of the tokens of the line. -/
structure IsTokenization (line : Text) (cut : List TokenFields) : Prop where
  joined_eq : joined cut = line
  runs : ∀ token ∈ cut, token.kind = .text → token.IsRun
  apart : cut.IsChain fun first second => ¬ (first.kind = .text ∧ second.kind = .text)
  escapes : ∀ before token after, cut = before ++ token :: after → token.kind = .escape →
    token.IsEscape (joined after)

/-! ## One token and those behind it -/

section Cons

variable {token : TokenFields} {cut : List TokenFields} {line : Text}

theorem joined_map_fields (tokens : List Token) :
    joined (tokens.map Token.fields) = tokens.flatMap Token.raw := by
  rw [joined, List.flatMap_map]
  rfl

theorem IsTokenization.tail (h : IsTokenization line (token :: cut)) :
    IsTokenization (joined cut) cut where
  joined_eq := rfl
  runs := by
    intro later hlater
    exact h.runs later (List.mem_cons_of_mem _ hlater)
  apart := h.apart.tail
  escapes := by
    intro before later after hcut
    exact h.escapes (token :: before) later after (by rw [hcut]; rfl)

theorem IsTokenization.cons (token : Token) (h : IsTokenization line cut)
    (hrun : token.kind = .text → token.fields.IsRun ∧ ∀ next ∈ cut.head?, next.kind ≠ .text)
    (hescape : token.kind = .escape → token.fields.IsEscape line) :
    IsTokenization (token.raw ++ line) (token.fields :: cut) where
  joined_eq := by
    rw [joined, List.flatMap_cons]
    exact congrArg (token.raw ++ ·) h.joined_eq
  runs := by
    intro first hfirst hkind
    rcases List.mem_cons.mp hfirst with rfl | hlater
    · exact (hrun hkind).1
    · exact h.runs first hlater hkind
  apart := by
    refine List.isChain_cons.mpr ⟨?_, h.apart⟩
    rintro next hnext ⟨hkind, htext⟩
    exact (hrun hkind).2 next hnext htext
  escapes := by
    intro before first after hcut hkind
    cases before with
    | nil =>
      obtain ⟨rfl, rfl⟩ := List.cons.inj hcut
      rw [h.joined_eq]
      exact hescape hkind
    | cons _ before =>
      obtain ⟨-, hlater⟩ := List.cons.inj hcut
      exact h.escapes before first after hlater hkind

/-- Behind a run of text there is no other one. -/
theorem IsTokenization.kind_head_ne (h : IsTokenization line (token :: cut))
    (hkind : token.kind = .text) : ∀ next ∈ cut.head?, next.kind ≠ .text := by
  intro next hnext htext
  exact (List.isChain_cons.mp h.apart).1 next hnext ⟨hkind, htext⟩

end Cons

/-! ## The fields of a cut -/

section Fields

variable {tokens : List Token} {cut : List TokenFields} {line : Text}

theorem kind_eq_text_iff (token : Token) : token.kind = .text ↔ token.IsText := by
  cases token with
  | text t => simp [Token.kind, Token.IsText]
  | escape raw => simp [Token.kind, Token.IsText]

theorem kind_head_ne_text_iff :
    (∀ next ∈ (tokens.map Token.fields).head?, next.kind ≠ .text) ↔
      ∀ token ∈ tokens.head?, ¬ token.IsText := by
  cases tokens with
  | nil => simp
  | cons token rest => simp [Token.fields, kind_eq_text_iff]

section Escapes

variable {body : Text} {last : Char}

theorem dropLast_ended (body : Text) (last : Char) :
    (esc :: (body ++ [last])).dropLast = esc :: body := by
  rw [← List.cons_append, List.dropLast_concat]

theorem getLast?_ended (body : Text) (last : Char) :
    (esc :: (body ++ [last])).getLast? = some last := by
  rw [← List.cons_append, List.getLast?_concat]

theorem forall_mem_esc_cons (hbody : ∀ c ∈ body, ¬ endsEscape c = true) :
    ∀ c ∈ esc :: body, ¬ endsEscape c = true :=
  List.forall_mem_cons.mpr ⟨by decide, hbody⟩

/-- What the fields of an escape stand for: an escape with an end, or one that the end of the line
ends. -/
theorem TokenFields.IsEscape.raw_cases {after : Text} {token : TokenFields}
    (h : token.IsEscape after) :
    (∃ body last, token.raw = esc :: (body ++ [last]) ∧
      (∀ c ∈ body, ¬ endsEscape c = true) ∧ endsEscape last = true) ∨
    ∃ body, token.raw = esc :: body ∧ (∀ c ∈ body, ¬ endsEscape c = true) ∧ after = [] := by
  obtain ⟨body, hraw⟩ := List.head?_eq_some_iff.mp h.starts
  have hgoesOn := h.goesOn
  have hends := h.ends
  rw [hraw] at hgoesOn hends ⊢
  rcases List.eq_nil_or_concat' body with rfl | ⟨body, last, rfl⟩
  · refine Or.inr ⟨[], rfl, by simp, hends.resolve_left ?_⟩
    rintro ⟨c, hc, hend⟩
    obtain rfl : esc = c := by simpa using hc
    exact absurd hend (by decide)
  · rw [dropLast_ended] at hgoesOn
    rw [getLast?_ended] at hends
    obtain ⟨-, hbody⟩ := List.forall_mem_cons.mp hgoesOn
    by_cases hend : endsEscape last = true
    · exact Or.inl ⟨body, last, rfl, hbody, hend⟩
    · refine Or.inr ⟨body ++ [last], rfl, ?_, hends.resolve_left ?_⟩
      · intro c hc
        rcases List.mem_append.mp hc with hc | hc
        · exact hbody c hc
        · rw [List.mem_singleton.mp hc]
          exact hend
      · rintro ⟨c, hc, hc'⟩
        obtain rfl := Option.some.inj hc
        exact hend hc'

end Escapes

/-- The fields of tokens of the grammar are those of the tokens of a line. -/
theorem IsCut.isTokenization (h : IsCut tokens) :
    IsTokenization (tokens.flatMap Token.raw) (tokens.map Token.fields) := by
  have hnil : IsTokenization [] [] := ⟨rfl, by simp, .nil, by simp⟩
  induction h with
  | nil => exact hnil
  | text hne hesc hhead _ ih =>
    rw [List.flatMap_cons, List.map_cons]
    refine ih.cons _ ?_ ?_
    · intro _
      exact ⟨⟨hne, hesc, rfl⟩, kind_head_ne_text_iff.mpr hhead⟩
    · intro hkind
      cases hkind
  | @escape body last later hbody hlast _ ih =>
    rw [List.flatMap_cons, List.map_cons]
    refine ih.cons _ ?_ ?_
    · intro hkind
      cases hkind
    · intro _
      refine ⟨rfl, rfl, ?_, Or.inl ⟨last, getLast?_ended body last, hlast⟩⟩
      intro c hc
      rw [Token.fields, Token.raw, dropLast_ended] at hc
      exact forall_mem_esc_cons hbody c hc
  | @dangling body hbody =>
    rw [List.flatMap_cons, List.map_cons]
    refine hnil.cons _ ?_ ?_
    · intro hkind
      cases hkind
    · intro _
      refine ⟨rfl, rfl, ?_, Or.inr rfl⟩
      intro c hc
      exact forall_mem_esc_cons hbody c (List.dropLast_subset _ hc)

theorem IsCut.eq_nil (h : IsCut tokens) (hraw : tokens.flatMap Token.raw = []) : tokens = [] := by
  have htokens := h.tokens_flatMap_raw
  rw [hraw] at htokens
  rw [← htokens, Screen.tokens]

/-- Fields that fit a line are those of tokens of the grammar. -/
theorem IsTokenization.exists_isCut (h : IsTokenization line cut) :
    ∃ tokens, IsCut tokens ∧ tokens.map Token.fields = cut := by
  induction cut generalizing line with
  | nil => exact ⟨[], .nil, rfl⟩
  | cons token cut ih =>
    obtain ⟨later, hlater, rfl⟩ := ih h.tail
    obtain ⟨kind, raw, shown⟩ := token
    cases kind with
    | text =>
      obtain ⟨hne, hesc, hshown⟩ := h.runs _ List.mem_cons_self rfl
      obtain rfl : raw = shown := hshown.symm
      exact ⟨.text raw :: later,
        .text hne hesc (kind_head_ne_text_iff.mp (h.kind_head_ne rfl)) hlater, rfl⟩
    | escape =>
      have hescape := h.escapes [] _ _ rfl rfl
      obtain rfl : shown = [] := hescape.shown_eq
      rcases hescape.raw_cases with ⟨body, last, hraw, hbody, hlast⟩ | ⟨body, hraw, hbody, hafter⟩
      · obtain rfl : raw = _ := hraw
        exact ⟨.escape _ :: later, .escape hbody hlast hlater, rfl⟩
      · obtain rfl : raw = _ := hraw
        rw [joined_map_fields] at hafter
        obtain rfl := hlater.eq_nil hafter
        exact ⟨[.escape _], .dangling hbody, rfl⟩

end Fields

/-- The fields of the tokens of a line are the only ones that fit it, and any number of its first
tokens are the tokens of the line that they make up. -/
theorem isTokenization_iff (line : Text) :
    (∀ cut, IsTokenization line cut ↔ cut = (tokens line).map Token.fields) ∧
      ∀ k, tokens (((tokens line).take k).flatMap Token.raw) = (tokens line).take k := by
  have hcut := isCut_tokens line
  constructor
  · intro cut
    constructor
    · intro h
      obtain ⟨found, hfound, rfl⟩ := h.exists_isCut
      have hline : found.flatMap Token.raw = line := by
        rw [← joined_map_fields]
        exact h.joined_eq
      rw [← hline, hfound.tokens_flatMap_raw]
    · rintro rfl
      have hfields := hcut.isTokenization
      rwa [flatMap_tokens] at hfields
  · intro k
    rw [← List.take_append_drop k (tokens line)] at hcut
    exact hcut.of_append.tokens_flatMap_raw

end TermPilot.Screen
