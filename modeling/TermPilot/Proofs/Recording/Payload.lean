import TermPilot.Proofs.Recording.Line

/-!
# The payloads of directives

No payload says a batch of keys. Reading a payload fails exactly if a paste is not ASCII or if one
of the texts that are taken for numbers is a run of too many digits.
-/

namespace TermPilot.Recording

/-! ## Failing computations -/

/-- The computation gives no result. -/
def Fails {ε α : Type} (x : Except ε α) : Prop := ∃ error, x = .error error

section Fails

variable {ε α β : Type} {x : Except ε α}

theorem not_fails_ok (a : α) : ¬ Fails (.ok a : Except ε α) := by
  rintro ⟨error, h⟩
  cases h

theorem fails_error (error : ε) : Fails (.error error : Except ε α) := ⟨error, rfl⟩

instance (x : Except ε α) : Decidable (Fails x) :=
  match x with
  | .ok a => isFalse (not_fails_ok a)
  | .error error => isTrue (fails_error error)

theorem bind_eq_ok {f : α → Except ε β} {b : β} :
    (x >>= f) = .ok b ↔ ∃ a, x = .ok a ∧ f a = .ok b := by
  cases x <;> simp [bind, Except.bind]

theorem bind_eq_error {f : α → Except ε β} {error : ε} :
    (x >>= f) = .error error ↔ x = .error error ∨ ∃ a, x = .ok a ∧ f a = .error error := by
  cases x <;> simp [bind, Except.bind]

theorem fails_bind {f : α → Except ε β} :
    Fails (x >>= f) ↔ Fails x ∨ ∃ a, x = .ok a ∧ Fails (f a) := by
  cases x with
  | error error => simp [Fails, bind, Except.bind]
  | ok a => simp [Fails, bind, Except.bind]

theorem exists_ok_iff_not_fails : (∃ a, x = .ok a) ↔ ¬ Fails x := by
  cases x with
  | error error => simp [Fails]
  | ok a => simp [Fails]

end Fails

/-! ## Numbers -/

/-- The text is a run of more digits than can be read as a number. -/
def TooLong (t : Text) : Prop := Text.isNumeral t = true ∧ Numeral.maxDigits < t.length

/-- The texts that are read as the numbers of a pair. -/
def pairFields (sep : Char) (t : Text) : List Text :=
  match Text.cutAt sep t with
  | none => []
  | some (first, second) => [first, second]

theorem fails_plain_iff {t : Text} : Fails (Numeral.plain t) ↔ Numeral.maxDigits < t.length := by
  rw [Numeral.plain]
  split_ifs with hlong
  · exact iff_of_true (fails_error _) hlong
  · exact iff_of_false (not_fails_ok _) hlong

theorem fails_coordinate?_iff {t : Text} : Fails (coordinate? t) ↔ TooLong t := by
  unfold coordinate? TooLong
  by_cases hnumeral : Text.isNumeral t = true
  · rw [if_pos hnumeral, Numeral.plain]
    by_cases hlong : t.length > Numeral.maxDigits
    · simp only [if_pos hlong, fails_error, hnumeral, true_and, true_iff]
      exact hlong
    · simp only [if_neg hlong, not_fails_ok, hnumeral, true_and, false_iff]
      exact hlong
  · rw [if_neg hnumeral]
    constructor
    · intro h
      exact absurd h (not_fails_ok none)
    · rintro ⟨h, -⟩
      exact absurd h hnumeral

theorem fails_pair?_iff {sep : Char} {t : Text} :
    Fails (pair? sep t) ↔ ∃ field ∈ pairFields sep t, TooLong field := by
  unfold pair? pairFields
  cases Text.cutAt sep t with
  | none => simp [not_fails_ok]
  | some parts =>
    obtain ⟨first, second⟩ := parts
    simp only [List.mem_cons, List.not_mem_nil, or_false, exists_eq_or_imp, exists_eq_left]
    rw [← fails_coordinate?_iff, ← fails_coordinate?_iff]
    constructor
    · intro h
      rcases fails_bind.mp h with hfirst | ⟨a, -, h⟩
      · exact Or.inl hfirst
      rcases fails_bind.mp h with hsecond | ⟨b, -, h⟩
      · exact Or.inr hsecond
      -- both were read, and what becomes of them does not fail
      exfalso
      cases a <;> cases b <;> exact not_fails_ok _ h
    · intro h
      by_cases hfirst : Fails (coordinate? first)
      · exact fails_bind.mpr (Or.inl hfirst)
      obtain ⟨a, ha⟩ := exists_ok_iff_not_fails.mpr hfirst
      have hsecond : Fails (coordinate? second) := h.resolve_left hfirst
      exact fails_bind.mpr (Or.inr ⟨a, ha, fails_bind.mpr (Or.inl hsecond)⟩)

theorem fails_position?_iff {t : Text} :
    Fails (position? t) ↔ ∃ field ∈ pairFields ',' (cutWord t).1, TooLong field :=
  fails_pair?_iff

/-! ## Events -/

theorem fails_bind_of_total {ε α β : Type} {x : Except ε α} {f : α → Except ε β}
    (h : ∀ a, ¬ Fails (f a)) : Fails (x >>= f) ↔ Fails x := by
  rw [fails_bind, or_iff_left]
  rintro ⟨a, -, ha⟩
  exact h a ha

theorem not_fails_bind {ε α β : Type} {x : Except ε α} {f : α → Except ε β} (hx : ¬ Fails x)
    (hf : ∀ a, ¬ Fails (f a)) : ¬ Fails (x >>= f) :=
  fun h => hx ((fails_bind_of_total hf).mp h)

theorem fails_placed?_iff {event : Int → Int → RecordedEvent} {t : Text} :
    Fails (placed? event t) ↔ Fails (position? t) :=
  fails_bind_of_total fun _ => not_fails_ok _

theorem fails_pointer?_iff {α : Type} {ofWord? : Text → Option α}
    {event : α → Int → Int → RecordedEvent} {word t : Text} :
    Fails (pointer? ofWord? event word t) ↔ Fails (position? t) := by
  refine fails_bind_of_total fun place => ?_
  cases place <;> cases ofWord? word <;> exact not_fails_ok _

theorem fails_resize?_iff {t : Text} : Fails (resize? t) ↔ Fails (pair? 'x' t) :=
  fails_bind_of_total fun _ => not_fails_ok _

/-- The texts that are read as numbers in the payload of a mouse directive. -/
def mouseFields (payload : Text) : List Text :=
  match cutWord payload with
  | (_, none) => []
  | (kind, some rest) =>
    let (word, position) := cutWord rest
    if kind ∈ ["release".toList, "move".toList] then pairFields ',' (cutWord word).1
    else if kind ∈ ["press".toList, "drag".toList, "scroll".toList] then
      pairFields ',' (cutWord (position.getD [])).1
    else []

theorem fails_mouse?_iff {payload : Text} :
    Fails (mouse? payload) ↔ ∃ field ∈ mouseFields payload, TooLong field := by
  unfold mouse? mouseFields
  rcases cutWord payload with ⟨kind, none | rest⟩
  · simp [not_fails_ok]
  · rcases cutWord rest with ⟨word, position⟩
    simp only [List.mem_cons, List.not_mem_nil, or_false]
    split_ifs <;>
      simp_all [fails_placed?_iff, fails_pointer?_iff, fails_position?_iff, not_fails_ok]

/-! ## Directives -/

theorem eventOf_mouse (payload : Text) : eventOf "mouse".toList payload = mouse? payload := rfl

theorem eventOf_paste (payload : Text) : eventOf "paste".toList payload = paste? payload := rfl

theorem eventOf_resize (payload : Text) : eventOf "resize".toList payload = resize? payload := rfl

theorem eventOf_focus (payload : Text) : eventOf "focus".toList payload = focus? payload := rfl

/-- The texts that are read as numbers in the payload of a directive. -/
def numberFields (kind payload : Text) : List Text :=
  if kind = "mouse".toList then mouseFields payload
  else if kind = "resize".toList then pairFields 'x' payload
  else []

/-- Reading the directive gives up: it is a paste whose payload is not ASCII, or a text that is
taken for a number has too many digits. -/
def Aborts (kind payload : Text) : Prop :=
  (kind = "paste".toList ∧ ∃ c ∈ payload, 0x80 ≤ c.toNat) ∨
    ∃ field ∈ numberFields kind payload, TooLong field

theorem fails_paste?_iff {payload : Text} :
    Fails (paste? payload) ↔ ∃ c ∈ payload, 0x80 ≤ c.toNat := by
  unfold paste?
  split_ifs with hascii
  · have hall : ∀ c ∈ payload, c.toNat < 0x80 := by simpa using hascii
    constructor
    · intro h
      exact absurd h (not_fails_ok _)
    · rintro ⟨c, hc, hlarge⟩
      exact absurd (hall c hc) (Nat.not_lt.mpr hlarge)
  · refine iff_of_true (fails_error _) ?_
    simpa using hascii

theorem not_fails_focus? (payload : Text) : ¬ Fails (focus? payload) := by
  unfold focus?
  split_ifs <;> exact not_fails_ok _

theorem fails_eventOf_iff {kind payload : Text} (h : kind ∈ directiveKinds) :
    Fails (eventOf kind payload) ↔ Aborts kind payload := by
  rcases directiveKind_cases h with rfl | rfl | rfl | rfl
  · rw [eventOf_mouse, fails_mouse?_iff]
    simp [Aborts, numberFields]
  · rw [eventOf_paste, fails_paste?_iff]
    simp [Aborts, numberFields]
  · rw [eventOf_resize, fails_resize?_iff, fails_pair?_iff]
    simp [Aborts, numberFields]
  · rw [eventOf_focus]
    simp [not_fails_focus?, Aborts, numberFields]

/-! ## No directive says a batch -/

theorem placed?_eq_ok {event : Int → Int → RecordedEvent} {t : Text} {e : RecordedEvent}
    (h : placed? event t = .ok (some e)) :
    ∃ col row : Nat, position? t = .ok (some (col, row)) ∧ e = event col row := by
  obtain ⟨place, hplace, he⟩ := bind_eq_ok.mp h
  cases place with
  | none => cases he
  | some place => cases he; exact ⟨_, _, hplace, rfl⟩

theorem pointer?_eq_ok {α : Type} {ofWord? : Text → Option α}
    {event : α → Int → Int → RecordedEvent} {word t : Text} {e : RecordedEvent}
    (h : pointer? ofWord? event word t = .ok (some e)) :
    ∃ (what : α) (col row : Nat), ofWord? word = some what ∧
      position? t = .ok (some (col, row)) ∧ e = event what col row := by
  obtain ⟨place, hplace, he⟩ := bind_eq_ok.mp h
  cases place with
  | none => cases he
  | some place =>
    cases hword : ofWord? word with
    | none => rw [hword] at he; cases he
    | some what => rw [hword] at he; cases he; exact ⟨_, _, _, rfl, hplace, rfl⟩

theorem mouse?_not_isBatch {payload : Text} {event : RecordedEvent}
    (h : mouse? payload = .ok (some event)) : ¬ IsBatch event := by
  rintro ⟨names, rfl⟩
  unfold mouse? at h
  rcases hkind : cutWord payload with ⟨kind, none | rest⟩
  · rw [hkind] at h
    cases h
  · rw [hkind] at h
    simp only at h
    split_ifs at h
    · obtain ⟨_, _, -, he⟩ := placed?_eq_ok h
      cases he
    · obtain ⟨_, _, -, he⟩ := placed?_eq_ok h
      cases he
    · obtain ⟨_, _, _, -, -, he⟩ := pointer?_eq_ok h
      cases he
    · obtain ⟨_, _, _, -, -, he⟩ := pointer?_eq_ok h
      cases he
    · obtain ⟨_, _, _, -, -, he⟩ := pointer?_eq_ok h
      cases he
    · cases h

theorem eventOf_not_isBatch {kind payload : Text} {event : RecordedEvent}
    (hkind : kind ∈ directiveKinds) (h : eventOf kind payload = .ok (some event)) :
    ¬ IsBatch event := by
  rcases directiveKind_cases hkind with rfl | rfl | rfl | rfl
  · exact mouse?_not_isBatch h
  · rintro ⟨names, rfl⟩
    rw [eventOf_paste, paste?] at h
    split_ifs at h
    obtain ⟨text, -, he⟩ := Option.map_eq_some_iff.mp (Except.ok.inj h)
    cases he
  · rintro ⟨names, rfl⟩
    obtain ⟨size, -, hsize⟩ := bind_eq_ok.mp (show resize? payload = _ from h)
    cases size <;> cases hsize
  · rintro ⟨names, rfl⟩
    rw [eventOf_focus, focus?] at h
    split_ifs at h <;> simp at h

end TermPilot.Recording
