import TermPilot.Proofs.Recording.Print

/-!
# Well-formed recordings

Whatever a recording looks like, the events that are read from it are well formed: batches are
made of names that can stand on lines of their own, and coordinates and sizes have sixteen bits. So
the events can be printed, and reading the canonical text gives them again.
-/

namespace TermPilot.Recording

/-! ## Directives -/

section Says

variable {payload : Text} {event : RecordedEvent}

theorem Writes.isCoordinate {t : Text} {n : Nat} (h : Writes t n) : IsCoordinate n :=
  ⟨Int.natCast_nonneg n, Int.ofNat_le.mpr h.bound⟩

theorem SaysPair.isCoordinate {sep : Char} {t : Text} {a b : Nat} (h : SaysPair sep t a b) :
    IsCoordinate a ∧ IsCoordinate b := by
  obtain ⟨first, second, -, hfirst, hsecond⟩ := h
  exact ⟨hfirst.isCoordinate, hsecond.isCoordinate⟩

theorem SaysPlace.isCoordinate {t : Text} {col row : Nat} (h : SaysPlace t col row) :
    IsCoordinate col ∧ IsCoordinate row := by
  obtain ⟨place, hpair, -⟩ := h
  exact hpair.isCoordinate

theorem SaysMouse.wellFormed (h : SaysMouse payload event) : WellFormed event := by
  cases h with
  | press button h => exact h.isCoordinate
  | drag button h => exact h.isCoordinate
  | scroll direction h => exact h.isCoordinate
  | release h => exact h.isCoordinate
  | move h => exact h.isCoordinate

theorem SaysResize.wellFormed (h : SaysResize payload event) : WellFormed event := by
  cases h with
  | resize h => exact h.isCoordinate

theorem SaysFocus.wellFormed (h : SaysFocus payload event) : WellFormed event := by
  cases h <;> trivial

theorem wellFormed_of_paste? (h : paste? payload = .ok (some event)) : WellFormed event := by
  unfold paste? at h
  split_ifs at h
  · obtain ⟨text, -, rfl⟩ := Option.map_eq_some_iff.mp (Except.ok.inj h)
    trivial

/-- The event of a directive is well formed. -/
theorem eventOf_wellFormed {kind : Text} (hkind : kind ∈ directiveKinds)
    (h : eventOf kind payload = .ok (some event)) : WellFormed event := by
  rcases directiveKind_cases hkind with rfl | rfl | rfl | rfl
  · exact (saysMouse_of_mouse? h).wellFormed
  · exact wellFormed_of_paste? h
  · exact (saysResize_of_resize? h).wellFormed
  · exact (saysFocus_of_focus? h).wellFormed

end Says

/-! ## Lines -/

/-- The line has no blanks around it, and it is one line. -/
structure IsTrimmedLine (line : Text) : Prop where
  trimmed : Text.trim line = line
  oneLine : '\n' ∉ line

theorem isTrimmedLine_of_mem_lines {t line : Text}
    (h : line ∈ (Text.splitOn '\n' t).map Text.trim) : IsTrimmedLine line := by
  obtain ⟨part, hpart, rfl⟩ := List.mem_map.mp h
  refine ⟨Text.trim_trim part, fun hbreak => ?_⟩
  exact Text.not_mem_of_mem_splitOn hpart (Text.mem_of_mem_trim hbreak)

theorem wellFormed_batchEvent {batch : List Text} (h : ∀ name ∈ batch, IsKeyName name) :
    ∀ event ∈ batchEvent batch, WellFormed event := by
  intro event hevent
  by_cases hbatch : batch = []
  · rw [hbatch] at hevent
    cases hevent
  · rw [batchEvent_of_ne_nil hbatch, List.mem_singleton] at hevent
    rw [hevent]
    exact ⟨hbatch, h⟩

/-- A batch that has not ended holds only names that can stand on lines, and what is read so far is
well formed: each line keeps both. -/
theorem readLines_wellFormed {number : Nat} {batch lines : List Text}
    (hbatch : ∀ name ∈ batch, IsKeyName name) (hlines : ∀ line ∈ lines, IsTrimmedLine line)
    {events : List RecordedEvent} (h : (readLines number batch lines).events = .ok events) :
    ∀ event ∈ events, WellFormed event := by
  have hnames : ∀ name ∈ ([] : List Text), IsKeyName name := List.forall_mem_nil _
  induction number, batch, lines using readLines_induction generalizing events with
  | nil number batch =>
    obtain rfl := Except.ok.inj h
    exact wellFormed_batchEvent hbatch
  | blank number batch rest ih =>
    rw [readLines_blank] at h
    obtain ⟨own, hown, rfl⟩ := Reading.events_after.mp h
    exact List.forall_mem_append.mpr ⟨wellFormed_batchEvent hbatch,
      ih hnames (List.forall_mem_cons.mp hlines).2 hown⟩
  | comment number batch line rest hcomment ih =>
    rw [readLines_comment _ _ _ hcomment] at h
    exact ih hbatch (List.forall_mem_cons.mp hlines).2 h
  | key number batch line rest hkey ih =>
    obtain ⟨hline, hrest⟩ := List.forall_mem_cons.mp hlines
    have hname : IsKeyName line := ⟨hkey, hline.trimmed, hline.oneLine⟩
    rw [readLines_key _ _ _ hkey] at h
    refine ih ?_ hrest h
    exact List.forall_mem_append.mpr ⟨hbatch, List.forall_mem_singleton.mpr hname⟩
  | event number batch line rest kind payload event hdirective hevent ih =>
    rw [readLines_event _ _ _ hdirective hevent] at h
    obtain ⟨own, hown, rfl⟩ := Reading.events_after.mp h
    have hwell : WellFormed event := eventOf_wellFormed hdirective.1 hevent
    refine List.forall_mem_append.mpr ⟨?_, ih hnames (List.forall_mem_cons.mp hlines).2 hown⟩
    exact List.forall_mem_append.mpr
      ⟨wellFormed_batchEvent hbatch, List.forall_mem_singleton.mpr hwell⟩
  | malformed number batch line rest kind payload hdirective hevent ih =>
    rw [readLines_malformed _ _ _ hdirective hevent, Reading.events_warned] at h
    obtain ⟨own, hown, rfl⟩ := Reading.events_after.mp h
    exact List.forall_mem_append.mpr ⟨wellFormed_batchEvent hbatch,
      ih hnames (List.forall_mem_cons.mp hlines).2 hown⟩
  | error number batch line rest kind payload error hdirective hevent =>
    rw [readLines_error _ _ _ hdirective hevent] at h
    cases h

/-- The events of a recording that can be read are well formed, and reading their canonical text
gives them again without a warning. -/
theorem read_wellFormed {t : Text} {events : List RecordedEvent}
    (h : (read t).events = .ok events) :
    (∀ event ∈ events, WellFormed event) ∧
      read (print events) = { warnings := [], events := .ok events } := by
  have hwell : ∀ event ∈ events, WellFormed event :=
    readLines_wellFormed (List.forall_mem_nil _) (fun _ => isTrimmedLine_of_mem_lines) h
  exact ⟨hwell, read_print hwell⟩

/-- Blanks around a name, a remark inside a batch, zeros in front of numbers, something behind a
position and a directive that is dropped. -/
def untidySession : Text :=
  "a\n# pause\n b \nmouse:press left 007,1 twice\nfocus:off\nc\n\nresize:080x24".toList

/-- The events of the session. -/
def tidiedSession : List RecordedEvent :=
  [.keys ["a".toList, "b".toList], .press .left 7 1, .keys ["c".toList], .resize 80 24]

theorem read_wellFormed_untidySession :
    (read untidySession).events = .ok tidiedSession ∧
      (∀ event ∈ tidiedSession, WellFormed event) ∧
      read (print tidiedSession) = { warnings := [], events := .ok tidiedSession } :=
  ⟨by decide, read_wellFormed (t := untidySession) (by decide)⟩

end TermPilot.Recording
