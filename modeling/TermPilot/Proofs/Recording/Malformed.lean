import TermPilot.Proofs.Recording.Account

/-!
# Malformed directives

A malformed directive reads like an empty line, and is reported. Two sorts of directives are not
dropped but stop the reading: pastes that are not ASCII, and numbers of too many digits.
-/

namespace TermPilot.Recording

/-! ## The directive of a line -/

/-- The kind and the payload of a directive. -/
def directive? (line : Text) : Option (Text × Text) :=
  (Text.cutAt ':' line).filter fun parts => (reader? parts.1).isSome

theorem directive?_eq_some_iff {kind payload line : Text} :
    directive? line = some (kind, payload) ↔ IsDirective kind payload line := by
  unfold directive? IsDirective
  rw [Option.filter_eq_some_iff, Text.cutAt_eq_some_iff, isSome_reader?_iff]
  constructor
  · rintro ⟨⟨hline, -⟩, hkind⟩
    exact ⟨hkind, hline⟩
  · rintro ⟨hkind, hline⟩
    exact ⟨⟨hline, colon_not_mem_kind hkind⟩, hkind⟩

/-- The line is a directive that says no event. -/
def IsMalformed (line : Text) : Prop :=
  ∃ kind payload, IsDirective kind payload line ∧ eventOf kind payload = .ok none

/-- The line is a directive that stops the reading. -/
def StopsReading (line : Text) : Prop :=
  ∃ kind payload, IsDirective kind payload line ∧ Aborts kind payload

section Decide

variable {p : Text → Text → Prop} {line : Text}

theorem exists_mem_directive?_iff :
    (∃ parts ∈ directive? line, p parts.1 parts.2) ↔
      ∃ kind payload, IsDirective kind payload line ∧ p kind payload := by
  constructor
  · rintro ⟨⟨kind, payload⟩, hparts, hp⟩
    exact ⟨kind, payload, directive?_eq_some_iff.mp hparts, hp⟩
  · rintro ⟨kind, payload, hdirective, hp⟩
    exact ⟨(kind, payload), directive?_eq_some_iff.mpr hdirective, hp⟩

instance (t : Text) : Decidable (TooLong t) := inferInstanceAs (Decidable (_ ∧ _))

instance (kind payload : Text) : Decidable (Aborts kind payload) :=
  inferInstanceAs (Decidable (_ ∨ _))

instance (line : Text) : Decidable (IsMalformed line) :=
  decidable_of_iff (∃ parts ∈ directive? line, eventOf parts.1 parts.2 = .ok none)
    (exists_mem_directive?_iff (p := fun kind payload => eventOf kind payload = .ok none))

instance (line : Text) : Decidable (StopsReading line) :=
  decidable_of_iff (∃ parts ∈ directive? line, Aborts parts.1 parts.2) exists_mem_directive?_iff

end Decide

/-- The warning about a malformed line. -/
def warningOf? (line : NumberedLine) : Option RecordingWarning :=
  if IsMalformed line.1 then
    (directive? line.1).map fun parts => ⟨parts.1, line.2, line.1⟩
  else none

/-- The warnings about the malformed lines before the first line that stops reading. -/
def warningsOf (lines : List NumberedLine) : List RecordingWarning :=
  (lines.takeWhile fun line => !decide (StopsReading line.1)).filterMap warningOf?

/-- The recording with an empty line in the place of every malformed one. -/
def withoutMalformed (t : Text) : Text :=
  Text.join ['\n']
    ((Text.splitOn '\n' t).map fun line => if IsMalformed (Text.trim line) then [] else line)

/-! ## Lines -/

section Lines

variable {kind payload line : Text} {number : Nat}

theorem IsDirective.exists_iff {p : Text → Text → Prop} (h : IsDirective kind payload line) :
    (∃ kind payload, IsDirective kind payload line ∧ p kind payload) ↔ p kind payload := by
  constructor
  · rintro ⟨kind', payload', h', hp⟩
    obtain ⟨rfl, rfl⟩ := h.unique h'
    exact hp
  · exact fun hp => ⟨kind, payload, h, hp⟩

theorem IsDirective.isMalformed_iff (h : IsDirective kind payload line) :
    IsMalformed line ↔ eventOf kind payload = .ok none :=
  h.exists_iff (p := fun kind payload => eventOf kind payload = .ok none)

theorem IsDirective.stopsReading_iff (h : IsDirective kind payload line) :
    StopsReading line ↔ Fails (eventOf kind payload) := by
  rw [fails_eventOf_iff h.1]
  exact h.exists_iff

/-- A directive that is read, well formed or not, does not stop the reading. -/
theorem IsDirective.not_stopsReading (h : IsDirective kind payload line)
    {said : Option RecordedEvent} (hsaid : eventOf kind payload = .ok said) :
    ¬ StopsReading line := by
  rw [h.stopsReading_iff, hsaid]
  exact not_fails_ok said

theorem IsDirective.not_isMalformed (h : IsDirective kind payload line) {event : RecordedEvent}
    (hevent : eventOf kind payload = .ok (some event)) : ¬ IsMalformed line := by
  rw [h.isMalformed_iff, hevent]
  exact fun hnone => nomatch hnone

theorem not_isMalformed_of_not_directive (h : ∀ kind payload, ¬ IsDirective kind payload line) :
    ¬ IsMalformed line := by
  rintro ⟨kind, payload, hdirective, -⟩
  exact h kind payload hdirective

theorem not_stopsReading_of_not_directive (h : ∀ kind payload, ¬ IsDirective kind payload line) :
    ¬ StopsReading line := by
  rintro ⟨kind, payload, hdirective, -⟩
  exact h kind payload hdirective

theorem IsComment.not_isDirective (h : IsComment line) (kind payload : Text) :
    ¬ IsDirective kind payload line :=
  fun hdirective => hdirective.not_isComment h

theorem nil_not_isDirective (kind payload : Text) : ¬ IsDirective kind payload [] :=
  fun hdirective => hdirective.ne_nil rfl

variable {rest : List NumberedLine}

theorem warningsOf_cons (hstops : ¬ StopsReading line) (hwell : ¬ IsMalformed line) :
    warningsOf ((line, number) :: rest) = warningsOf rest := by
  have hnone : warningOf? (line, number) = none := if_neg hwell
  unfold warningsOf
  rw [List.takeWhile_cons_of_pos (by simpa using hstops), List.filterMap_cons_none hnone]

theorem warningsOf_malformed (h : IsDirective kind payload line)
    (hnone : eventOf kind payload = .ok none) :
    warningsOf ((line, number) :: rest) = ⟨kind, number, line⟩ :: warningsOf rest := by
  have hstops := h.not_stopsReading hnone
  have hsome : warningOf? (line, number) = some ⟨kind, number, line⟩ := by
    rw [warningOf?, if_pos (h.isMalformed_iff.mpr hnone), directive?_eq_some_iff.mpr h]
    rfl
  unfold warningsOf
  rw [List.takeWhile_cons_of_pos (by simpa using hstops), List.filterMap_cons_some hsome]

theorem warningsOf_stops (h : StopsReading line) : warningsOf ((line, number) :: rest) = [] := by
  unfold warningsOf
  rw [List.takeWhile_cons_of_neg (by simpa using h)]
  rfl

end Lines

/-! ## Reading -/

/-- Reading ends with the events unless a line stops it. -/
theorem readLines_returns_iff (number : Nat) (batch lines : List Text) :
    (∃ events, (readLines number batch lines).events = .ok events) ↔
      ∀ line ∈ lines, ¬ StopsReading line := by
  induction number, batch, lines using readLines_induction with
  | nil number batch => simp [readLines]
  | blank number batch rest ih =>
    rw [readLines_blank, Reading.returns_after, ih, List.forall_mem_cons]
    exact (and_iff_right (not_stopsReading_of_not_directive nil_not_isDirective)).symm
  | comment number batch line rest hcomment ih =>
    rw [readLines_comment _ _ _ hcomment, ih, List.forall_mem_cons]
    exact (and_iff_right (not_stopsReading_of_not_directive hcomment.not_isDirective)).symm
  | key number batch line rest hkey ih =>
    rw [readLines_key _ _ _ hkey, ih, List.forall_mem_cons]
    exact (and_iff_right (not_stopsReading_of_not_directive hkey.2.2)).symm
  | event number batch line rest kind payload event hdirective hevent ih =>
    rw [readLines_event _ _ _ hdirective hevent, Reading.returns_after, ih, List.forall_mem_cons]
    exact (and_iff_right (hdirective.not_stopsReading hevent)).symm
  | malformed number batch line rest kind payload hdirective hevent ih =>
    rw [readLines_malformed _ _ _ hdirective hevent, Reading.events_warned, Reading.returns_after,
      ih, List.forall_mem_cons]
    exact (and_iff_right (hdirective.not_stopsReading hevent)).symm
  | error number batch line rest kind payload error hdirective hevent =>
    rw [readLines_error _ _ _ hdirective hevent, List.forall_mem_cons, hdirective.stopsReading_iff,
      hevent]
    refine iff_of_false ?_ ?_
    · rintro ⟨events, h⟩
      cases h
    · rintro ⟨h, -⟩
      exact h (fails_error error)

theorem readLines_warnings (number : Nat) (batch lines : List Text) :
    (readLines number batch lines).warnings = warningsOf (lines.zipIdx number) := by
  induction number, batch, lines using readLines_induction with
  | nil number batch => rfl
  | blank number batch rest ih =>
    rw [readLines_blank, Reading.warnings_after, ih, List.zipIdx_cons,
      warningsOf_cons (not_stopsReading_of_not_directive nil_not_isDirective)
        (not_isMalformed_of_not_directive nil_not_isDirective)]
  | comment number batch line rest hcomment ih =>
    rw [readLines_comment _ _ _ hcomment, ih, List.zipIdx_cons,
      warningsOf_cons (not_stopsReading_of_not_directive hcomment.not_isDirective)
        (not_isMalformed_of_not_directive hcomment.not_isDirective)]
  | key number batch line rest hkey ih =>
    rw [readLines_key _ _ _ hkey, ih, List.zipIdx_cons,
      warningsOf_cons (not_stopsReading_of_not_directive hkey.2.2)
        (not_isMalformed_of_not_directive hkey.2.2)]
  | event number batch line rest kind payload event hdirective hevent ih =>
    rw [readLines_event _ _ _ hdirective hevent, Reading.warnings_after, ih, List.zipIdx_cons,
      warningsOf_cons (hdirective.not_stopsReading hevent) (hdirective.not_isMalformed hevent)]
  | malformed number batch line rest kind payload hdirective hevent ih =>
    rw [readLines_malformed _ _ _ hdirective hevent, Reading.warnings_warned,
      Reading.warnings_after, ih, List.zipIdx_cons, warningsOf_malformed hdirective hevent]
  | error number batch line rest kind payload error hdirective hevent =>
    have hstops : StopsReading line := by
      rw [hdirective.stopsReading_iff, hevent]
      exact fails_error error
    rw [readLines_error _ _ _ hdirective hevent, List.zipIdx_cons, warningsOf_stops hstops]

/-- The line itself, or an empty one in the place of a malformed one. -/
def blankMalformed (line : Text) : Text := if IsMalformed line then [] else line

theorem blankMalformed_of_not_malformed {line : Text} (h : ¬ IsMalformed line) :
    blankMalformed line = line := if_neg h

/-- A malformed line makes the same events as an empty line. -/
theorem readLines_blankMalformed (number : Nat) (batch lines : List Text) :
    (readLines number batch (lines.map blankMalformed)).events =
      (readLines number batch lines).events := by
  induction number, batch, lines using readLines_induction with
  | nil number batch => rfl
  | blank number batch rest ih =>
    have hwell := not_isMalformed_of_not_directive nil_not_isDirective
    rw [List.map_cons, blankMalformed_of_not_malformed hwell, readLines_blank, readLines_blank]
    exact congrArg (Except.map (batchEvent batch ++ ·)) ih
  | comment number batch line rest hcomment ih =>
    have hwell := not_isMalformed_of_not_directive hcomment.not_isDirective
    rw [List.map_cons, blankMalformed_of_not_malformed hwell, readLines_comment _ _ _ hcomment,
      readLines_comment _ _ _ hcomment, ih]
  | key number batch line rest hkey ih =>
    have hwell := not_isMalformed_of_not_directive hkey.2.2
    rw [List.map_cons, blankMalformed_of_not_malformed hwell, readLines_key _ _ _ hkey,
      readLines_key _ _ _ hkey, ih]
  | event number batch line rest kind payload event hdirective hevent ih =>
    rw [List.map_cons, blankMalformed_of_not_malformed (hdirective.not_isMalformed hevent),
      readLines_event _ _ _ hdirective hevent, readLines_event _ _ _ hdirective hevent]
    exact congrArg (Except.map (batchEvent batch ++ [event] ++ ·)) ih
  | malformed number batch line rest kind payload hdirective hevent ih =>
    rw [List.map_cons, blankMalformed, if_pos (hdirective.isMalformed_iff.mpr hevent),
      readLines_blank, readLines_malformed _ _ _ hdirective hevent]
    exact congrArg (Except.map (batchEvent batch ++ ·)) ih
  | error number batch line rest kind payload error hdirective hevent =>
    have hwell : ¬ IsMalformed line := by
      rw [hdirective.isMalformed_iff, hevent]
      exact fun hnone => nomatch hnone
    rw [List.map_cons, blankMalformed_of_not_malformed hwell,
      readLines_error _ _ _ hdirective hevent, readLines_error _ _ _ hdirective hevent]

theorem splitOn_withoutMalformed (t : Text) :
    (Text.splitOn '\n' (withoutMalformed t)).map Text.trim =
      ((Text.splitOn '\n' t).map Text.trim).map blankMalformed := by
  unfold withoutMalformed
  rw [Text.splitOn_join, List.map_map, List.map_map]
  · refine List.map_congr_left fun line _ => ?_
    rw [Function.comp_apply, Function.comp_apply, blankMalformed, apply_ite Text.trim,
      Text.trim_nil]
  · intro part hpart
    obtain ⟨line, hline, rfl⟩ := List.mem_map.mp hpart
    split_ifs
    · exact List.not_mem_nil
    · exact Text.not_mem_of_mem_splitOn hline
  · simpa using Text.splitOn_ne_nil '\n' t

/-- What reading makes of malformed directives: it gives events exactly if no line stops it, the
events are those of the recording with empty lines in their place, and up to the first line that
stops reading each of them is reported once. -/
theorem read_malformed (t : Text) :
    ((∃ events, (read t).events = .ok events) ↔
        ∀ line ∈ numberedLines t, ¬ StopsReading line.1) ∧
      (read (withoutMalformed t)).events = (read t).events ∧
      (read t).warnings = warningsOf (numberedLines t) := by
  refine ⟨?_, ?_, readLines_warnings _ _ _⟩
  · have hlines : (numberedLines t).map Prod.fst = (Text.splitOn '\n' t).map Text.trim :=
      List.zipIdx_map_fst _ _
    unfold read
    rw [readLines_returns_iff, ← hlines, List.forall_mem_map]
  · unfold read
    rw [splitOn_withoutMalformed, readLines_blankMalformed]

/-- Some recordings cannot be read: a paste that is not ASCII is not dropped. -/
theorem read_stops : ¬ ∀ t, ∃ events, (read t).events = .ok events := by
  intro h
  obtain ⟨events, hevents⟩ := h "a\npaste:é\nb".toList
  have hstops : (read "a\npaste:é\nb".toList).events = .error .pasteNotAscii := by decide
  rw [hstops] at hevents
  cases hevents

end TermPilot.Recording
