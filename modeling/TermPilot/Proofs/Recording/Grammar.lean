import TermPilot.Proofs.Number.Decimal
import TermPilot.Proofs.Recording.Payload

/-!
# The grammar of payloads

What the payloads of mouse, resize and focus directives look like, said without their readers. A
reader gives an event only if the grammar says it, and gives every event that the grammar says as
long as no run of digits is too long to be read as a number.
-/

namespace TermPilot.Recording

/-! ## The grammar -/

/-- The text is a number of sixteen bits in digits, with any number of zeros in front. -/
structure Writes (t : Text) (n : Nat) : Prop where
  digits : Text.isNumeral t = true
  value : Nat.ofDigitChars 10 t 0 = n
  bound : n ≤ 65535

/-- The text is two numbers with `sep` between them. -/
def SaysPair (sep : Char) (t : Text) (a b : Nat) : Prop :=
  ∃ first second, t = first ++ sep :: second ∧ Writes first a ∧ Writes second b

/-- The text is a column and a row, and behind a blank there may be anything. -/
def SaysPlace (t : Text) (col row : Nat) : Prop :=
  ∃ place, SaysPair ',' place col row ∧ (t = place ∨ ∃ more, t = place ++ ' ' :: more)

/-- The payload of a mouse directive says the event. -/
inductive SaysMouse : Text → RecordedEvent → Prop where
  | press (button : MouseButton) {t : Text} {col row : Nat} (h : SaysPlace t col row) :
      SaysMouse ("press".toList ++ ' ' :: (button.name.toList ++ ' ' :: t)) (.press button col row)
  | drag (button : MouseButton) {t : Text} {col row : Nat} (h : SaysPlace t col row) :
      SaysMouse ("drag".toList ++ ' ' :: (button.name.toList ++ ' ' :: t)) (.drag button col row)
  | scroll (direction : ScrollDirection) {t : Text} {col row : Nat} (h : SaysPlace t col row) :
      SaysMouse ("scroll".toList ++ ' ' :: (direction.name.toList ++ ' ' :: t))
        (.scroll direction col row)
  | release {t : Text} {col row : Nat} (h : SaysPlace t col row) :
      SaysMouse ("release".toList ++ ' ' :: t) (.release col row)
  | move {t : Text} {col row : Nat} (h : SaysPlace t col row) :
      SaysMouse ("move".toList ++ ' ' :: t) (.move col row)

/-- The payload of a resize directive says the event. -/
inductive SaysResize : Text → RecordedEvent → Prop where
  | resize {t : Text} {cols rows : Nat} (h : SaysPair 'x' t cols rows) :
      SaysResize t (.resize cols rows)

/-- The payload of a focus directive says the event. -/
inductive SaysFocus : Text → RecordedEvent → Prop where
  | gained : SaysFocus "in".toList (.focus true)
  | lost : SaysFocus "out".toList (.focus false)

/-- No run of digits in the text is too long to be read as a number. -/
def HasShortRuns (t : Text) : Prop :=
  ∀ run, run <:+: t → (∀ c ∈ run, c.isDigit = true) → run.length ≤ 4300

/-! ## Words -/

theorem button_eq_of_ofWord? {word : Text} {button : MouseButton}
    (h : MouseButton.ofWord? word = some button) : word = button.name.toList := by
  obtain ⟨known, hentry, rfl⟩ := Text.exists_word_of_find? h
  have hall : ∀ entry ∈ MouseButton.words, entry.1 = entry.2.name := by decide
  exact congrArg String.toList (hall (known, button) hentry)

theorem direction_eq_of_ofWord? {word : Text} {direction : ScrollDirection}
    (h : ScrollDirection.ofWord? word = some direction) : word = direction.name.toList := by
  obtain ⟨known, hentry, rfl⟩ := Text.exists_word_of_find? h
  have hall : ∀ entry ∈ ScrollDirection.words, entry.1 = entry.2.name := by decide
  exact congrArg String.toList (hall (known, direction) hentry)

theorem ofWord?_buttonName (button : MouseButton) :
    MouseButton.ofWord? button.name.toList = some button ∧ ' ' ∉ button.name.toList := by
  cases button <;> decide

theorem ofWord?_directionName (direction : ScrollDirection) :
    ScrollDirection.ofWord? direction.name.toList = some direction ∧
      ' ' ∉ direction.name.toList := by
  cases direction <;> decide

theorem cutWord_append {word : Text} (h : ' ' ∉ word) (rest : Text) :
    cutWord (word ++ ' ' :: rest) = (word, some rest) := by
  rw [cutWord, Text.cutAt_append h]

theorem cutWord_eq_self {word : Text} (h : ' ' ∉ word) : cutWord word = (word, none) := by
  rw [cutWord, Text.cutAt_eq_none h]

/-- A text is a word, a blank and a rest, or it has no blank. -/
theorem cutWord_cases (t : Text) :
    (∃ word rest, ' ' ∉ word ∧ t = word ++ ' ' :: rest ∧ cutWord t = (word, some rest)) ∨
      (' ' ∉ t ∧ cutWord t = (t, none)) := by
  by_cases hblank : ' ' ∈ t
  · obtain ⟨word, rest, rfl, hword⟩ := List.eq_append_cons_of_mem hblank
    exact Or.inl ⟨word, rest, hword, rfl, cutWord_append hword rest⟩
  · exact Or.inr ⟨hblank, cutWord_eq_self hblank⟩

/-! ## What is read is what the grammar says -/

section Sound

variable {payload : Text} {event : RecordedEvent}

theorem writes_of_coordinate? {t : Text} {n : Nat} (h : coordinate? t = .ok (some n)) :
    Writes t n := by
  unfold coordinate? at h
  split_ifs at h with hdigits
  · by_cases hshort : t.length ≤ Numeral.maxDigits
    · simp only [Double.plain_of_le hshort] at h
      split_ifs at h with hbound
      · cases h
        exact ⟨hdigits, rfl, hbound⟩
      · cases h
    · simp only [Double.plain_of_lt (Nat.not_le.mp hshort)] at h
      cases h
  · cases h

theorem saysPair_of_pair? {sep : Char} {t : Text} {a b : Nat}
    (h : pair? sep t = .ok (some (a, b))) : SaysPair sep t a b := by
  unfold pair? at h
  cases hcut : Text.cutAt sep t with
  | none => rw [hcut] at h; cases h
  | some parts =>
    obtain ⟨first, second⟩ := parts
    obtain ⟨ht, -⟩ := Text.cutAt_eq_some_iff.mp hcut
    rw [hcut] at h
    obtain ⟨m, hfirst, h⟩ := bind_eq_ok.mp h
    obtain ⟨n, hsecond, h⟩ := bind_eq_ok.mp h
    cases m with
    | none => cases h
    | some m =>
      cases n with
      | none => cases h
      | some n =>
        cases h
        exact ⟨first, second, ht, writes_of_coordinate? hfirst, writes_of_coordinate? hsecond⟩

theorem saysPlace_of_position? {t : Text} {col row : Nat}
    (h : position? t = .ok (some (col, row))) : SaysPlace t col row := by
  have hpair := saysPair_of_pair? h
  rcases cutWord_cases t with ⟨word, rest, -, rfl, hcut⟩ | ⟨-, hcut⟩
  · rw [hcut] at hpair
    exact ⟨word, hpair, Or.inr ⟨rest, rfl⟩⟩
  · rw [hcut] at hpair
    exact ⟨t, hpair, Or.inl rfl⟩

/-- A position is read up to the first blank, whether the text goes on behind it or not. -/
theorem position?_cutWord (t : Text) : position? (cutWord t).1 = position? t := by
  have hword : (cutWord (cutWord t).1).1 = (cutWord t).1 := by
    rcases cutWord_cases t with ⟨word, rest, hword, -, hcut⟩ | ⟨ht, hcut⟩
    · rw [hcut, cutWord_eq_self hword]
    · rw [hcut, hcut]
  rw [position?, position?, hword]

/-- The words and the position behind `press`, `drag` or `scroll`. -/
theorem exists_of_pointer? {α : Type} {ofWord? : Text → Option α} {name : α → String}
    (hname : ∀ {word what}, ofWord? word = some what → word = (name what).toList)
    {make : α → Int → Int → RecordedEvent} {rest : Text}
    (h : pointer? ofWord? make (cutWord rest).1 ((cutWord rest).2.getD []) = .ok (some event)) :
    ∃ what t, ∃ col row : Nat, rest = (name what).toList ++ ' ' :: t ∧ SaysPlace t col row ∧
      event = make what col row := by
  obtain ⟨what, col, row, hword, hplace, rfl⟩ := pointer?_eq_ok h
  rcases cutWord_cases rest with ⟨word, t, -, rfl, hcut⟩ | ⟨-, hcut⟩
  · rw [hcut] at hword hplace
    exact ⟨what, t, col, row, by rw [← hname hword], saysPlace_of_position? hplace, rfl⟩
  · -- without a second blank no position is read
    rw [hcut] at hplace
    cases hplace

theorem saysMouse_of_mouse? (h : mouse? payload = .ok (some event)) :
    SaysMouse payload event := by
  unfold mouse? at h
  rcases cutWord_cases payload with ⟨kind, rest, -, rfl, hcut⟩ | ⟨-, hcut⟩
  · rw [hcut] at h
    simp only at h
    split_ifs at h with hrelease hmove hpress hdrag hscroll
    · obtain ⟨col, row, hplace, rfl⟩ := placed?_eq_ok h
      rw [position?_cutWord] at hplace
      rw [hrelease]
      exact .release (saysPlace_of_position? hplace)
    · obtain ⟨col, row, hplace, rfl⟩ := placed?_eq_ok h
      rw [position?_cutWord] at hplace
      rw [hmove]
      exact .move (saysPlace_of_position? hplace)
    · obtain ⟨button, t, col, row, rfl, hplace, rfl⟩ := exists_of_pointer? button_eq_of_ofWord? h
      rw [hpress]
      exact .press button hplace
    · obtain ⟨button, t, col, row, rfl, hplace, rfl⟩ := exists_of_pointer? button_eq_of_ofWord? h
      rw [hdrag]
      exact .drag button hplace
    · obtain ⟨direction, t, col, row, rfl, hplace, rfl⟩ :=
        exists_of_pointer? direction_eq_of_ofWord? h
      rw [hscroll]
      exact .scroll direction hplace
    · cases h
  · rw [hcut] at h
    cases h

theorem saysResize_of_resize? (h : resize? payload = .ok (some event)) :
    SaysResize payload event := by
  obtain ⟨size, hsize, h⟩ := bind_eq_ok.mp h
  cases size with
  | none => cases h
  | some size =>
    cases h
    exact .resize (saysPair_of_pair? hsize)

theorem saysFocus_of_focus? (h : focus? payload = .ok (some event)) : SaysFocus payload event := by
  unfold focus? at h
  split_ifs at h with hin hout
  · cases h
    rw [hin]
    exact .gained
  · cases h
    rw [hout]
    exact .lost
  · cases h

end Sound

/-! ## Short runs of digits -/

section Short

variable {t part : Text}

theorem HasShortRuns.mono (h : HasShortRuns t) (hpart : part <:+: t) : HasShortRuns part :=
  fun run hrun hdigits => h run (hrun.trans hpart) hdigits

theorem hasShortRuns_of_length (h : t.length ≤ 4300) : HasShortRuns t :=
  fun _ hrun _ => Nat.le_trans hrun.length_le h

theorem HasShortRuns.length_le (h : HasShortRuns t) (hdigits : Text.isNumeral t = true) :
    t.length ≤ Numeral.maxDigits := by
  rw [Text.isNumeral, Bool.and_eq_true, List.all_eq_true] at hdigits
  exact h t List.infix_rfl hdigits.2

theorem HasShortRuns.not_tooLong (h : HasShortRuns t) (hpart : part <:+: t) : ¬ TooLong part := by
  rintro ⟨hdigits, hlong⟩
  exact absurd ((h.mono hpart).length_le hdigits) (Nat.not_le.mpr hlong)

theorem cutWord_isInfix (t : Text) :
    (cutWord t).1 <:+: t ∧ (cutWord t).2.getD [] <:+: t := by
  rcases cutWord_cases t with ⟨word, rest, -, rfl, hcut⟩ | ⟨-, hcut⟩
  · rw [hcut]
    refine ⟨(List.prefix_append word _).isInfix, ?_⟩
    exact (List.suffix_append_of_suffix (List.suffix_cons ' ' rest)).isInfix
  · rw [hcut]
    exact ⟨List.infix_rfl, List.nil_infix⟩

theorem isInfix_of_mem_pairFields {sep : Char} {field : Text} (h : field ∈ pairFields sep t) :
    field <:+: t := by
  unfold pairFields at h
  cases hcut : Text.cutAt sep t with
  | none => rw [hcut] at h; cases h
  | some parts =>
    obtain ⟨first, second⟩ := parts
    obtain ⟨rfl, -⟩ := Text.cutAt_eq_some_iff.mp hcut
    rw [hcut] at h
    rcases List.mem_cons.mp h with rfl | h
    · exact (List.prefix_append _ _).isInfix
    · obtain rfl := List.mem_singleton.mp h
      exact (List.suffix_append_of_suffix (List.suffix_cons sep _)).isInfix

theorem isInfix_of_mem_mouseFields {field : Text} (h : field ∈ mouseFields t) : field <:+: t := by
  have hrest : (cutWord t).2.getD [] <:+: t := (cutWord_isInfix t).2
  unfold mouseFields at h
  rcases hcut : cutWord t with ⟨kind, none | rest⟩
  · rw [hcut] at h
    cases h
  · rw [hcut] at h hrest
    change rest <:+: t at hrest
    simp only at h
    split_ifs at h
    · have hword := (cutWord_isInfix rest).1.trans hrest
      exact (isInfix_of_mem_pairFields h).trans ((cutWord_isInfix _).1.trans hword)
    · have hposition := (cutWord_isInfix rest).2.trans hrest
      exact (isInfix_of_mem_pairFields h).trans ((cutWord_isInfix _).1.trans hposition)
    · cases h

end Short

/-! ## What the grammar says is read -/

section Complete

variable {payload : Text} {event : RecordedEvent}

theorem coordinate?_of_writes {t : Text} {n : Nat} (hshort : HasShortRuns t) (h : Writes t n) :
    coordinate? t = .ok (some n) := by
  rw [coordinate?, if_pos h.digits, Double.plain_of_le (hshort.length_le h.digits), h.value]
  exact congrArg Except.ok (if_pos h.bound)

theorem Writes.not_mem {t : Text} {n : Nat} (h : Writes t n) {c : Char} (hc : c.isDigit = false) :
    c ∉ t := by
  have hdigits := h.digits
  rw [Text.isNumeral, Bool.and_eq_true, List.all_eq_true] at hdigits
  intro hmem
  exact absurd (hdigits.2 c hmem) (by rw [hc]; decide)

theorem pair?_of_saysPair {sep : Char} (hsep : sep.isDigit = false) {t : Text} {a b : Nat}
    (hshort : HasShortRuns t) (h : SaysPair sep t a b) : pair? sep t = .ok (some (a, b)) := by
  obtain ⟨first, second, rfl, hfirst, hsecond⟩ := h
  have hshortFirst : HasShortRuns first := hshort.mono (List.prefix_append _ _).isInfix
  have hshortSecond : HasShortRuns second :=
    hshort.mono (List.suffix_append_of_suffix (List.suffix_cons sep _)).isInfix
  rw [pair?, Text.cutAt_append (hfirst.not_mem hsep)]
  simp only [coordinate?_of_writes hshortFirst hfirst, coordinate?_of_writes hshortSecond hsecond]
  rfl

theorem SaysPair.space_not_mem {t : Text} {a b : Nat} (h : SaysPair ',' t a b) : ' ' ∉ t := by
  obtain ⟨first, second, rfl, hfirst, hsecond⟩ := h
  rw [List.mem_append, List.mem_cons, not_or, not_or]
  exact ⟨hfirst.not_mem rfl, by decide, hsecond.not_mem rfl⟩

theorem position?_of_saysPlace {t : Text} {col row : Nat} (hshort : HasShortRuns t)
    (h : SaysPlace t col row) : position? t = .ok (some (col, row)) := by
  obtain ⟨place, hpair, rfl | ⟨more, rfl⟩⟩ := h
  · rw [position?, cutWord_eq_self hpair.space_not_mem]
    exact pair?_of_saysPair rfl hshort hpair
  · rw [position?, cutWord_append hpair.space_not_mem]
    exact pair?_of_saysPair rfl (hshort.mono (List.prefix_append _ _).isInfix) hpair

theorem placed?_of_saysPlace (make : Int → Int → RecordedEvent) {t : Text} {col row : Nat}
    (hshort : HasShortRuns t) (h : SaysPlace t col row) :
    placed? make (cutWord t).1 = .ok (some (make col row)) := by
  rw [placed?, position?_cutWord, position?_of_saysPlace hshort h]
  rfl

theorem pointer?_of_saysPlace {α : Type} {ofWord? : Text → Option α} {word : Text} {what : α}
    (hword : ofWord? word = some what) (make : α → Int → Int → RecordedEvent) {t : Text}
    {col row : Nat} (hshort : HasShortRuns t) (h : SaysPlace t col row) :
    pointer? ofWord? make word t = .ok (some (make what col row)) := by
  rw [pointer?, position?_of_saysPlace hshort h, hword]
  rfl

/-- What follows a blank has short runs of digits if the whole text has. -/
theorem HasShortRuns.rest {word rest : Text} (h : HasShortRuns (word ++ ' ' :: rest)) :
    HasShortRuns rest :=
  h.mono (List.suffix_append_of_suffix (List.suffix_cons ' ' rest)).isInfix

theorem mouse?_of_saysMouse (hshort : HasShortRuns payload) (h : SaysMouse payload event) :
    mouse? payload = .ok (some event) := by
  cases h with
  | press button h =>
    obtain ⟨hword, hspace⟩ := ofWord?_buttonName button
    rw [mouse?, cutWord_append (by decide)]
    simp only [cutWord_append hspace]
    exact pointer?_of_saysPlace hword .press hshort.rest.rest h
  | drag button h =>
    obtain ⟨hword, hspace⟩ := ofWord?_buttonName button
    rw [mouse?, cutWord_append (by decide)]
    simp only [cutWord_append hspace]
    exact pointer?_of_saysPlace hword .drag hshort.rest.rest h
  | scroll direction h =>
    obtain ⟨hword, hspace⟩ := ofWord?_directionName direction
    rw [mouse?, cutWord_append (by decide)]
    simp only [cutWord_append hspace]
    exact pointer?_of_saysPlace hword .scroll hshort.rest.rest h
  | release h =>
    rw [mouse?, cutWord_append (by decide)]
    exact placed?_of_saysPlace .release hshort.rest h
  | move h =>
    rw [mouse?, cutWord_append (by decide)]
    exact placed?_of_saysPlace .move hshort.rest h

theorem resize?_of_saysResize (hshort : HasShortRuns payload) (h : SaysResize payload event) :
    resize? payload = .ok (some event) := by
  cases h with
  | resize h =>
    rw [resize?, pair?_of_saysPair rfl hshort h]
    rfl

end Complete

/-- Payloads without overlong runs of digits are read without failing, and the events that are read
are those of the grammar. -/
theorem payloads_grammar {payload : Text} (h : HasShortRuns payload) :
    ((∃ said, mouse? payload = .ok said) ∧
        ∀ event, mouse? payload = .ok (some event) ↔ SaysMouse payload event) ∧
      ((∃ said, resize? payload = .ok said) ∧
        ∀ event, resize? payload = .ok (some event) ↔ SaysResize payload event) ∧
      (∃ said, focus? payload = .ok said) ∧
        ∀ event, focus? payload = .ok (some event) ↔ SaysFocus payload event := by
  refine ⟨⟨?_, fun event => ⟨saysMouse_of_mouse?, mouse?_of_saysMouse h⟩⟩,
    ⟨?_, fun event => ⟨saysResize_of_resize?, resize?_of_saysResize h⟩⟩, ?_,
    fun event => ⟨saysFocus_of_focus?, ?_⟩⟩
  · rw [exists_ok_iff_not_fails, fails_mouse?_iff]
    rintro ⟨field, hfield, hlong⟩
    exact h.not_tooLong (isInfix_of_mem_mouseFields hfield) hlong
  · rw [exists_ok_iff_not_fails, fails_resize?_iff, fails_pair?_iff]
    rintro ⟨field, hfield, hlong⟩
    exact h.not_tooLong (isInfix_of_mem_pairFields hfield) hlong
  · exact exists_ok_iff_not_fails.mpr (not_fails_focus? payload)
  · intro hsaid
    cases hsaid <;> rfl

/-- A drag with zeros in front of its column and a remark behind its row. -/
def samplePayload : Text := "drag middle 007,65535 and so on".toList

theorem payloads_grammar_samplePayload :
    HasShortRuns samplePayload ∧ SaysMouse samplePayload (.drag .middle 7 65535) ∧
      ∀ event, ¬ SaysResize samplePayload event := by
  have hshort : HasShortRuns samplePayload := hasShortRuns_of_length (by decide)
  obtain ⟨⟨-, hmouse⟩, ⟨-, hresize⟩, -⟩ := payloads_grammar hshort
  refine ⟨hshort, (hmouse _).mp (by decide), fun event hsaid => ?_⟩
  have hread : resize? samplePayload = .ok none := by decide
  rw [(hresize event).mpr hsaid] at hread
  cases hread

end TermPilot.Recording
