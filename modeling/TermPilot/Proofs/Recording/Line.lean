import TermPilot.Proofs.Text.Parts
import TermPilot.Recording.Read

/-!
# The lines of a recording

The four classes of lines, said without the reader: a comment starts with `#`, a blank line is
empty, a directive is one of four kinds followed by a colon, and every other line names a key. The
reader sorts every line into its class.
-/

namespace TermPilot.Recording

/-- The kinds of directives. -/
def directiveKinds : List Text :=
  ["mouse".toList, "paste".toList, "resize".toList, "focus".toList]

/-- The line is a remark. -/
def IsComment (line : Text) : Prop := line.head? = some '#'

/-- The line is a directive of the kind. No kind holds a colon, so the colon after it is the first
one of the line. -/
def IsDirective (kind payload line : Text) : Prop :=
  kind ∈ directiveKinds ∧ line = kind ++ ':' :: payload

/-- The line names a key: it is in none of the other classes. -/
def IsKeyLine (line : Text) : Prop :=
  line ≠ [] ∧ ¬ IsComment line ∧ ∀ kind payload, ¬ IsDirective kind payload line

/-- The line ends a batch of keys. -/
def Separates (line : Text) : Prop := line = [] ∨ ∃ kind payload, IsDirective kind payload line

/-- The event is a batch of keys. -/
def IsBatch (event : RecordedEvent) : Prop := ∃ names, event = .keys names

/-- The keys of an event. -/
def keysOf : RecordedEvent → List Text
  | .keys names => names
  | _ => []

theorem keysOf_of_not_isBatch {event : RecordedEvent} (h : ¬ IsBatch event) :
    keysOf event = [] := by
  cases event with
  | keys names => exact absurd ⟨names, rfl⟩ h
  | _ => rfl

/-- What the payload of a directive says, or nothing for an unknown kind. -/
def eventOf (kind payload : Text) : Payload RecordedEvent :=
  match reader? kind with
  | some reader => reader payload
  | none => .ok none

instance (line : Text) : Decidable (IsComment line) := inferInstanceAs (Decidable (_ = _))

theorem exists_isDirective_iff {line : Text} :
    (∃ kind payload, IsDirective kind payload line) ↔
      ∃ kind ∈ directiveKinds, kind ++ [':'] <+: line := by
  constructor
  · rintro ⟨kind, payload, hkind, rfl⟩
    exact ⟨kind, hkind, payload, by rw [List.append_assoc, List.singleton_append]⟩
  · rintro ⟨kind, hkind, payload, rfl⟩
    exact ⟨kind, payload, hkind, by rw [List.append_assoc, List.singleton_append]⟩

theorem isKeyLine_iff {line : Text} :
    IsKeyLine line ↔
      line ≠ [] ∧ ¬ IsComment line ∧ ¬ ∃ kind ∈ directiveKinds, kind ++ [':'] <+: line := by
  rw [← exists_isDirective_iff, IsKeyLine, not_exists]
  simp only [not_exists]

instance (line : Text) : Decidable (IsKeyLine line) := decidable_of_iff' _ isKeyLine_iff

/-! ## Kinds -/

theorem directiveKind_cases {kind : Text} (h : kind ∈ directiveKinds) :
    kind = "mouse".toList ∨ kind = "paste".toList ∨ kind = "resize".toList ∨
      kind = "focus".toList := by
  simpa only [directiveKinds, List.mem_cons, List.not_mem_nil, or_false] using h

theorem colon_not_mem_kind {kind : Text} (h : kind ∈ directiveKinds) : ':' ∉ kind := by
  have hall : ∀ kind ∈ directiveKinds, ':' ∉ kind := by decide
  exact hall kind h

theorem isSome_reader?_iff {kind : Text} : (reader? kind).isSome ↔ kind ∈ directiveKinds := by
  simp only [reader?, directiveKinds, List.mem_cons, List.not_mem_nil, or_false]
  split_ifs <;> simp_all

theorem cutAt_of_isDirective {kind payload line : Text} (h : IsDirective kind payload line) :
    Text.cutAt ':' line = some (kind, payload) := by
  rw [h.2]
  exact Text.cutAt_append (colon_not_mem_kind h.1) payload

/-- A directive is cut in one way only. -/
theorem IsDirective.unique {kind payload kind' payload' line : Text}
    (h : IsDirective kind payload line) (h' : IsDirective kind' payload' line) :
    kind = kind' ∧ payload = payload' := by
  have hcut := (cutAt_of_isDirective h).symm.trans (cutAt_of_isDirective h')
  simpa using hcut

/-- A directive begins with the first letter of its kind. -/
theorem IsDirective.head {kind payload line : Text} (h : IsDirective kind payload line) :
    ∃ c rest, line = c :: rest ∧ c ≠ '#' ∧ Text.isBlank c = false := by
  obtain ⟨hkind, rfl⟩ := h
  rcases directiveKind_cases hkind with rfl | rfl | rfl | rfl
  · exact ⟨'m', _, rfl, by decide, by decide⟩
  · exact ⟨'p', _, rfl, by decide, by decide⟩
  · exact ⟨'r', _, rfl, by decide, by decide⟩
  · exact ⟨'f', _, rfl, by decide, by decide⟩

/-! ## Classes -/

theorem IsDirective.not_isComment {kind payload line : Text} (h : IsDirective kind payload line) :
    ¬ IsComment line := by
  obtain ⟨c, rest, rfl, hc, -⟩ := h.head
  simpa [IsComment] using hc

theorem IsDirective.ne_nil {kind payload line : Text} (h : IsDirective kind payload line) :
    line ≠ [] := by
  obtain ⟨c, rest, rfl, -⟩ := h.head
  exact List.cons_ne_nil c rest

theorem IsDirective.not_isKeyLine {kind payload line : Text} (h : IsDirective kind payload line) :
    ¬ IsKeyLine line :=
  fun hkey => hkey.2.2 kind payload h

theorem IsKeyLine.not_isComment {line : Text} (h : IsKeyLine line) : ¬ IsComment line := h.2.1

theorem IsKeyLine.not_separates {line : Text} (h : IsKeyLine line) : ¬ Separates line := by
  rintro (hnil | ⟨kind, payload, hd⟩)
  · exact h.1 hnil
  · exact h.2.2 kind payload hd

theorem IsComment.not_separates {line : Text} (h : IsComment line) : ¬ Separates line := by
  rintro (rfl | ⟨kind, payload, hd⟩)
  · simp [IsComment] at h
  · exact hd.not_isComment h

/-- Every line is in one of the classes. -/
theorem line_cases (line : Text) :
    line = [] ∨ IsComment line ∨ (∃ kind payload, IsDirective kind payload line) ∨
      IsKeyLine line := by
  by_cases hnil : line = []
  · exact Or.inl hnil
  by_cases hcomment : IsComment line
  · exact Or.inr (Or.inl hcomment)
  by_cases hdirective : ∃ kind payload, IsDirective kind payload line
  · exact Or.inr (Or.inr (Or.inl hdirective))
  · exact Or.inr (Or.inr (Or.inr
      ⟨hnil, hcomment, fun kind payload h => hdirective ⟨kind, payload, h⟩⟩))

/-! ## The reader's classes -/

theorem Line.of_comment {line : Text} (h : IsComment line) : Line.of line = .comment := by
  obtain ⟨rest, rfl⟩ := List.head?_eq_some_iff.mp h
  rfl

theorem Line.of_cons {c : Char} {rest : Text} (hc : c ≠ '#') :
    Line.of (c :: rest) =
      match Text.cutAt ':' (c :: rest) with
      | none => .key (c :: rest)
      | some (kind, payload) => match reader? kind with
        | none => .key (c :: rest)
        | some reader => .directive kind (reader payload) := by
  unfold Line.of
  split
  · next h => cases h
  · next h => exact absurd (List.head_eq_of_cons_eq h) hc
  · rfl

theorem Line.of_directive {kind payload line : Text} (h : IsDirective kind payload line) :
    Line.of line = .directive kind (eventOf kind payload) := by
  have hcut := cutAt_of_isDirective h
  have hreader := isSome_reader?_iff.mpr h.1
  obtain ⟨reader, hr⟩ := Option.isSome_iff_exists.mp hreader
  obtain ⟨c, rest, rfl, hc, -⟩ := h.head
  rw [Line.of_cons hc, hcut, eventOf]
  simp only [hr]

theorem Line.of_key {line : Text} (h : IsKeyLine line) : Line.of line = .key line := by
  obtain ⟨hnil, hcomment, hdirective⟩ := h
  obtain ⟨c, rest, rfl⟩ := List.exists_cons_of_ne_nil hnil
  have hc : c ≠ '#' := by simpa [IsComment] using hcomment
  rw [Line.of_cons hc]
  cases hcut : Text.cutAt ':' (c :: rest) with
  | none => rfl
  | some parts =>
    obtain ⟨kind, payload⟩ := parts
    obtain ⟨hline, -⟩ := Text.cutAt_eq_some_iff.mp hcut
    cases hr : reader? kind with
    | none => simp only [hr]
    | some reader =>
      have hkind : kind ∈ directiveKinds := isSome_reader?_iff.mp (by rw [hr]; rfl)
      exact absurd ⟨hkind, hline⟩ (hdirective kind payload)

/-! ## The reader's steps -/

section Steps

variable (number : Nat) (batch : List Text) (rest : List Text)

theorem readLines_comment {line : Text} (h : IsComment line) :
    readLines number batch (line :: rest) = readLines (number + 1) batch rest := by
  rw [readLines, Line.of_comment h]

theorem readLines_blank :
    readLines number batch ([] :: rest) =
      (readLines (number + 1) [] rest).after (batchEvent batch) := rfl

theorem readLines_key {line : Text} (h : IsKeyLine line) :
    readLines number batch (line :: rest) = readLines (number + 1) (batch ++ [line]) rest := by
  rw [readLines, Line.of_key h]

variable {kind payload line : Text}

/-- A directive that says an event ends the batch, and the event follows it. -/
theorem readLines_event {event : RecordedEvent} (h : IsDirective kind payload line)
    (hevent : eventOf kind payload = .ok (some event)) :
    readLines number batch (line :: rest) =
      (readLines (number + 1) [] rest).after (batchEvent batch ++ [event]) := by
  rw [readLines, Line.of_directive h]
  simp only [hevent]

/-- A malformed directive ends the batch and is dropped with a warning. -/
theorem readLines_malformed (h : IsDirective kind payload line)
    (hevent : eventOf kind payload = .ok none) :
    readLines number batch (line :: rest) =
      ((readLines (number + 1) [] rest).after (batchEvent batch)).warned ⟨kind, number, line⟩ := by
  rw [readLines, Line.of_directive h]
  simp only [hevent]

theorem readLines_error {error : RecordingError} (h : IsDirective kind payload line)
    (hevent : eventOf kind payload = .error error) :
    readLines number batch (line :: rest) = { events := .error error } := by
  rw [readLines, Line.of_directive h]
  simp only [hevent]

/-- The lines as the reader takes them: what holds of no lines, and of every line with the lines
after it as soon as it holds of those, holds of all lines. -/
@[elab_as_elim]
theorem readLines_induction {motive : Nat → List Text → List Text → Prop}
    (nil : ∀ number batch, motive number batch [])
    (blank : ∀ number batch rest, motive (number + 1) [] rest → motive number batch ([] :: rest))
    (comment : ∀ number batch line rest, IsComment line → motive (number + 1) batch rest →
      motive number batch (line :: rest))
    (key : ∀ number batch line rest, IsKeyLine line →
      motive (number + 1) (batch ++ [line]) rest → motive number batch (line :: rest))
    (event : ∀ number batch line rest kind payload event, IsDirective kind payload line →
      eventOf kind payload = .ok (some event) → motive (number + 1) [] rest →
        motive number batch (line :: rest))
    (malformed : ∀ number batch line rest kind payload, IsDirective kind payload line →
      eventOf kind payload = .ok none → motive (number + 1) [] rest →
        motive number batch (line :: rest))
    (error : ∀ number batch line rest kind payload error, IsDirective kind payload line →
      eventOf kind payload = .error error → motive number batch (line :: rest))
    (number : Nat) (batch lines : List Text) : motive number batch lines := by
  induction lines generalizing number batch with
  | nil => exact nil number batch
  | cons line rest ih =>
    rcases line_cases line with rfl | hcomment | ⟨kind, payload, hdirective⟩ | hkey
    · exact blank number batch rest (ih _ _)
    · exact comment number batch line rest hcomment (ih _ _)
    · rcases hevent : eventOf kind payload with e | _ | e
      · exact error number batch line rest kind payload e hdirective hevent
      · exact malformed number batch line rest kind payload hdirective hevent (ih _ _)
      · exact event number batch line rest kind payload e hdirective hevent (ih _ _)
    · exact key number batch line rest hkey (ih _ _)

end Steps

theorem Reading.events_after {events later : List RecordedEvent} {r : Reading} :
    (r.after events).events = .ok later ↔ ∃ own, r.events = .ok own ∧ later = events ++ own := by
  obtain ⟨warnings, result⟩ := r
  cases result with
  | error error => simp [Reading.after, Except.map]
  | ok own => simp [Reading.after, Except.map, eq_comm]

theorem Reading.returns_after {events : List RecordedEvent} {r : Reading} :
    (∃ later, (r.after events).events = .ok later) ↔ ∃ own, r.events = .ok own := by
  constructor
  · rintro ⟨later, h⟩
    obtain ⟨own, hown, -⟩ := Reading.events_after.mp h
    exact ⟨own, hown⟩
  · rintro ⟨own, h⟩
    exact ⟨events ++ own, Reading.events_after.mpr ⟨own, h, rfl⟩⟩

theorem Reading.events_warned (warning : RecordingWarning) (r : Reading) :
    (r.warned warning).events = r.events := rfl

theorem Reading.warnings_after (events : List RecordedEvent) (r : Reading) :
    (r.after events).warnings = r.warnings := rfl

theorem Reading.warnings_warned (warning : RecordingWarning) (r : Reading) :
    (r.warned warning).warnings = warning :: r.warnings := rfl

theorem batchEvent_of_ne_nil {batch : List Text} (h : batch ≠ []) :
    batchEvent batch = [.keys batch] := by
  rw [batchEvent, if_neg (by simpa using h)]

end TermPilot.Recording
