import TermPilot.Proofs.Recording.Grammar
import TermPilot.Proofs.Text.Base64
import TermPilot.Proofs.Text.Utf8

/-!
# Printing a recording

The canonical text of a list of events has one line for each key, one directive for each other
event, and an empty line between two batches of keys. Reading it gives back the same events, and
nothing is dropped.
-/

namespace TermPilot.Recording

open Double (digits_ne_nil isDigit_of_mem_digits isNumeral_digits not_mem_digits)

/-! ## The canonical text -/

/-- Two coordinates or sizes with a separator between them. -/
def pairText (sep : Char) (first second : Int) : Text :=
  Double.digits first.toNat ++ sep :: Double.digits second.toNat

/-- The payload of a mouse directive with a position. -/
def placedPayload (what : String) (col row : Int) : Text :=
  what.toList ++ ' ' :: pairText ',' col row

/-- The payload of a mouse directive with the name of a button or direction and a position. -/
def pointerPayload (what word : String) (col row : Int) : Text :=
  what.toList ++ ' ' :: placedPayload word col row

/-- A directive of the given kind. -/
def directiveLine (kind : String) (payload : Text) : Text := kind.toList ++ ':' :: payload

/-- The lines of an event. -/
def eventLines : RecordedEvent → List Text
  | .keys names => names
  | .press button col row => [directiveLine "mouse" (pointerPayload "press" button.name col row)]
  | .release col row => [directiveLine "mouse" (placedPayload "release" col row)]
  | .drag button col row => [directiveLine "mouse" (pointerPayload "drag" button.name col row)]
  | .scroll direction col row =>
    [directiveLine "mouse" (pointerPayload "scroll" direction.name col row)]
  | .move col row => [directiveLine "mouse" (placedPayload "move" col row)]
  | .paste text => [directiveLine "paste" (Text.Base64.encode (Text.Utf8.encode text))]
  | .resize cols rows => [directiveLine "resize" (pairText 'x' cols rows)]
  | .focus gained => [directiveLine "focus" (if gained then "in".toList else "out".toList)]

/-- The lines of a list of events, with an empty line between two batches of keys. -/
def printLines : List RecordedEvent → List Text
  | [] => []
  | .keys names :: .keys more :: rest => names ++ [] :: printLines (.keys more :: rest)
  | event :: rest => eventLines event ++ printLines rest

/-- The canonical text of a list of events. -/
def print (events : List RecordedEvent) : Text := Text.join ['\n'] (printLines events)

/-! ## Events that have a canonical text -/

/-- A coordinate or size that fits into sixteen bits. -/
def IsCoordinate (n : Int) : Prop := 0 ≤ n ∧ n ≤ 65535

/-- The name of a key that can stand on a line of its own. -/
structure IsKeyName (name : Text) : Prop where
  /-- The name is no comment, no directive and not empty. -/
  keyLine : IsKeyLine name
  /-- There are no blanks around it. -/
  trimmed : Text.trim name = name
  /-- It is one line. -/
  oneLine : '\n' ∉ name

/-- The event can be printed. -/
def WellFormed : RecordedEvent → Prop
  | .keys names => names ≠ [] ∧ ∀ name ∈ names, IsKeyName name
  | .press _ col row | .release col row | .drag _ col row | .scroll _ col row | .move col row =>
    IsCoordinate col ∧ IsCoordinate row
  | .resize cols rows => IsCoordinate cols ∧ IsCoordinate rows
  | .paste _ | .focus _ => True

instance (n : Int) : Decidable (IsCoordinate n) := inferInstanceAs (Decidable (_ ∧ _))

instance (name : Text) : Decidable (IsKeyName name) :=
  decidable_of_iff (IsKeyLine name ∧ Text.trim name = name ∧ '\n' ∉ name)
    ⟨fun h => ⟨h.1, h.2.1, h.2.2⟩, fun h => ⟨h.keyLine, h.trimmed, h.oneLine⟩⟩

instance : DecidablePred WellFormed := fun event => by
  cases event <;> unfold WellFormed <;> infer_instance

/-! ## Numbers -/

theorem IsCoordinate.exists_writes {n : Int} (h : IsCoordinate n) :
    ∃ m : Nat, (m : Int) = n ∧ Writes (Double.digits m) m ∧ (Double.digits m).length ≤ 5 := by
  obtain ⟨low, high⟩ := h
  obtain ⟨m, rfl⟩ := Int.eq_ofNat_of_zero_le low
  have hm : m ≤ 65535 := Int.ofNat_le.mp high
  have hlength : (Double.digits m).length ≤ 5 :=
    (Nat.length_toDigits_le_iff (by decide) (by decide)).mpr (Nat.lt_of_le_of_lt hm (by decide))
  exact ⟨m, rfl, ⟨isNumeral_digits m, Nat.ofDigitChars_ten_toDigits, hm⟩, hlength⟩

/-- The text of two coordinates says these, and it is short. -/
theorem exists_saysPair {first second : Int} (hfirst : IsCoordinate first)
    (hsecond : IsCoordinate second) (sep : Char) :
    ∃ a b : Nat, (a : Int) = first ∧ (b : Int) = second ∧
      SaysPair sep (pairText sep first second) a b ∧ (pairText sep first second).length ≤ 11 := by
  obtain ⟨a, rfl, hwritesFirst, hlengthFirst⟩ := hfirst.exists_writes
  obtain ⟨b, rfl, hwritesSecond, hlengthSecond⟩ := hsecond.exists_writes
  refine ⟨a, b, rfl, rfl, ⟨_, _, rfl, hwritesFirst, hwritesSecond⟩, ?_⟩
  rw [pairText, List.length_append, List.length_cons, Int.toNat_natCast, Int.toNat_natCast]
  omega

/-! ## Payloads -/

section Mouse

variable {col row : Int}

/-- A printed button or direction and position says the event of the word before them. -/
theorem mouse?_pointerPayload {what word : String} {event : RecordedEvent}
    (hcol : IsCoordinate col) (hrow : IsCoordinate row)
    (hlength : what.toList.length + word.toList.length ≤ 20)
    (hsaid : ∀ {c r : Nat}, (c : Int) = col → (r : Int) = row →
      SaysPlace (pairText ',' col row) c r → SaysMouse (pointerPayload what word col row) event) :
    mouse? (pointerPayload what word col row) = .ok (some event) := by
  obtain ⟨c, r, hc, hr, hpair, hshort⟩ := exists_saysPair hcol hrow ','
  refine mouse?_of_saysMouse (hasShortRuns_of_length ?_) (hsaid hc hr ⟨_, hpair, Or.inl rfl⟩)
  simp only [pointerPayload, placedPayload, List.length_append, List.length_cons]
  omega

theorem mouse?_placedPayload {what : String} {event : RecordedEvent}
    (hcol : IsCoordinate col) (hrow : IsCoordinate row) (hlength : what.toList.length ≤ 20)
    (hsaid : ∀ {c r : Nat}, (c : Int) = col → (r : Int) = row →
      SaysPlace (pairText ',' col row) c r → SaysMouse (placedPayload what col row) event) :
    mouse? (placedPayload what col row) = .ok (some event) := by
  obtain ⟨c, r, hc, hr, hpair, hshort⟩ := exists_saysPair hcol hrow ','
  refine mouse?_of_saysMouse (hasShortRuns_of_length ?_) (hsaid hc hr ⟨_, hpair, Or.inl rfl⟩)
  simp only [placedPayload, List.length_append, List.length_cons]
  omega

theorem mouse?_press (button : MouseButton) (hcol : IsCoordinate col) (hrow : IsCoordinate row) :
    mouse? (pointerPayload "press" button.name col row) = .ok (some (.press button col row)) := by
  refine mouse?_pointerPayload hcol hrow (by cases button <;> decide) ?_
  rintro c r rfl rfl hplace
  exact .press button hplace

theorem mouse?_drag (button : MouseButton) (hcol : IsCoordinate col) (hrow : IsCoordinate row) :
    mouse? (pointerPayload "drag" button.name col row) = .ok (some (.drag button col row)) := by
  refine mouse?_pointerPayload hcol hrow (by cases button <;> decide) ?_
  rintro c r rfl rfl hplace
  exact .drag button hplace

theorem mouse?_scroll (direction : ScrollDirection) (hcol : IsCoordinate col)
    (hrow : IsCoordinate row) :
    mouse? (pointerPayload "scroll" direction.name col row) =
      .ok (some (.scroll direction col row)) := by
  refine mouse?_pointerPayload hcol hrow (by cases direction <;> decide) ?_
  rintro c r rfl rfl hplace
  exact .scroll direction hplace

theorem mouse?_release (hcol : IsCoordinate col) (hrow : IsCoordinate row) :
    mouse? (placedPayload "release" col row) = .ok (some (.release col row)) := by
  refine mouse?_placedPayload hcol hrow (by decide) ?_
  rintro c r rfl rfl hplace
  exact .release hplace

theorem mouse?_move (hcol : IsCoordinate col) (hrow : IsCoordinate row) :
    mouse? (placedPayload "move" col row) = .ok (some (.move col row)) := by
  refine mouse?_placedPayload hcol hrow (by decide) ?_
  rintro c r rfl rfl hplace
  exact .move hplace

end Mouse

theorem paste?_encode (text : Text) :
    paste? (Text.Base64.encode (Text.Utf8.encode text)) = .ok (some (.paste text)) := by
  have hascii : (Text.Base64.encode (Text.Utf8.encode text)).all (fun c => c.toNat < 0x80) := by
    rw [List.all_eq_true]
    intro c hc
    have := (Text.Base64.bounds_of_mem_encode hc).2
    simp only [decide_eq_true_eq]
    omega
  rw [paste?, if_pos hascii, Text.Base64.decode?_encode, Option.bind_some,
    Text.Utf8.decode?_encode, Option.map_some]

theorem resize?_pairText {cols rows : Int} (hcols : IsCoordinate cols) (hrows : IsCoordinate rows) :
    resize? (pairText 'x' cols rows) = .ok (some (.resize cols rows)) := by
  obtain ⟨c, r, rfl, rfl, hpair, hlength⟩ := exists_saysPair hcols hrows 'x'
  exact resize?_of_saysResize (hasShortRuns_of_length (Nat.le_trans hlength (by decide)))
    (.resize hpair)

/-! ## Lines -/

/-- The text stays as it is when it becomes the end of a line. -/
structure EndsLine (t : Text) : Prop where
  /-- It has no line break. -/
  noBreak : '\n' ∉ t
  /-- It does not end in a blank. -/
  visible : ∀ c ∈ t.getLast?, Text.isBlank c = false

theorem EndsLine.append {a b : Text} (ha : '\n' ∉ a) (hb : EndsLine b) (hne : b ≠ []) :
    EndsLine (a ++ b) := by
  refine ⟨?_, ?_⟩
  · rw [List.mem_append, not_or]
    exact ⟨ha, hb.noBreak⟩
  · rw [List.getLast?_append_of_ne_nil a hne]
    exact hb.visible

theorem isBlank_of_visible {c : Char} (low : 0x20 < c.toNat) (high : c.toNat < 0x7F) :
    Text.isBlank c = false := by
  simp [Text.isBlank, Text.inRanges, Text.blankRanges]
  omega

theorem endsLine_of_visible {t : Text} (h : ∀ c ∈ t, 0x20 < c.toNat ∧ c.toNat < 0x7F) :
    EndsLine t := by
  refine ⟨fun hbreak => absurd (h _ hbreak).1 (by decide), ?_⟩
  intro c hc
  obtain ⟨low, high⟩ := h c (List.mem_of_getLast? hc)
  exact isBlank_of_visible low high

theorem endsLine_digits (n : Nat) : EndsLine (Double.digits n) := by
  refine endsLine_of_visible fun c hc => ?_
  have hdigit := isDigit_of_mem_digits hc
  simp only [Char.isDigit, Bool.and_eq_true, decide_eq_true_eq] at hdigit
  have low : 0x30 ≤ c.toNat := hdigit.1
  have high : c.toNat ≤ 0x39 := hdigit.2
  omega

theorem endsLine_pairText {sep : Char} (hsep : sep ≠ '\n') (first second : Int) :
    EndsLine (pairText sep first second) := by
  rw [pairText, List.append_cons]
  refine EndsLine.append ?_ (endsLine_digits second.toNat) (digits_ne_nil second.toNat)
  rw [List.mem_append, List.mem_singleton, not_or]
  exact ⟨not_mem_digits rfl _, hsep.symm⟩

theorem endsLine_placedPayload {what : String} (hwhat : '\n' ∉ what.toList) (col row : Int) :
    EndsLine (placedPayload what col row) := by
  rw [placedPayload, List.append_cons]
  refine EndsLine.append ?_ (endsLine_pairText (by decide) col row) (by simp [pairText])
  rw [List.mem_append, List.mem_singleton, not_or]
  exact ⟨hwhat, by decide⟩

theorem endsLine_pointerPayload {what word : String} (hwhat : '\n' ∉ what.toList)
    (hword : '\n' ∉ word.toList) (col row : Int) :
    EndsLine (pointerPayload what word col row) := by
  rw [pointerPayload, List.append_cons]
  refine EndsLine.append ?_ (endsLine_placedPayload hword col row) (by simp [placedPayload])
  rw [List.mem_append, List.mem_singleton, not_or]
  exact ⟨hwhat, by decide⟩

/-- A directive whose payload ends a line is a line that trimming keeps. -/
theorem IsDirective.trim_eq_self {kind payload line : Text} (h : IsDirective kind payload line)
    (hend : EndsLine payload) : Text.trim line = line := by
  obtain ⟨c, rest, hline, -, hblank⟩ := h.head
  refine Text.trim_eq_self ?_ ?_
  · intro d hd
    rw [hline, List.head?_cons, Option.mem_some_iff] at hd
    rw [← hd, hblank]
  · rw [h.2]
    by_cases hnil : payload = []
    · simp only [hnil, List.getLast?_concat, Option.mem_some_iff]
      rintro d rfl
      decide
    · rw [List.append_cons, List.getLast?_append_of_ne_nil _ hnil]
      exact hend.visible

theorem IsDirective.oneLine {kind payload line : Text} (h : IsDirective kind payload line)
    (hend : EndsLine payload) : '\n' ∉ line := by
  have hall : ∀ kind ∈ directiveKinds, '\n' ∉ kind := by decide
  rw [h.2, List.mem_append, List.mem_cons, not_or, not_or]
  exact ⟨hall kind h.1, by decide, hend.noBreak⟩

/-- An event that is no batch of keys is printed as one directive, which says that event. -/
theorem eventLines_of_not_batch {event : RecordedEvent} (hw : WellFormed event)
    (h : ¬ IsBatch event) :
    ∃ kind payload, eventLines event = [kind ++ ':' :: payload] ∧ kind ∈ directiveKinds ∧
      EndsLine payload ∧ eventOf kind payload = .ok (some event) := by
  cases event with
  | keys names => exact absurd ⟨names, rfl⟩ h
  | press button col row =>
    have hname : '\n' ∉ button.name.toList := by cases button <;> decide
    exact ⟨_, _, rfl, by decide, endsLine_pointerPayload (by decide) hname col row,
      mouse?_press button hw.1 hw.2⟩
  | release col row =>
    exact ⟨_, _, rfl, by decide, endsLine_placedPayload (by decide) col row,
      mouse?_release hw.1 hw.2⟩
  | drag button col row =>
    have hname : '\n' ∉ button.name.toList := by cases button <;> decide
    exact ⟨_, _, rfl, by decide, endsLine_pointerPayload (by decide) hname col row,
      mouse?_drag button hw.1 hw.2⟩
  | scroll direction col row =>
    have hname : '\n' ∉ direction.name.toList := by cases direction <;> decide
    exact ⟨_, _, rfl, by decide, endsLine_pointerPayload (by decide) hname col row,
      mouse?_scroll direction hw.1 hw.2⟩
  | move col row =>
    exact ⟨_, _, rfl, by decide, endsLine_placedPayload (by decide) col row,
      mouse?_move hw.1 hw.2⟩
  | paste text =>
    have hvisible : EndsLine (Text.Base64.encode (Text.Utf8.encode text)) :=
      endsLine_of_visible fun c hc => Text.Base64.bounds_of_mem_encode hc
    exact ⟨_, _, rfl, by decide, hvisible, paste?_encode text⟩
  | resize cols rows =>
    exact ⟨_, _, rfl, by decide, endsLine_pairText (by decide) cols rows,
      resize?_pairText hw.1 hw.2⟩
  | focus gained =>
    have hvisible : EndsLine (if gained then "in".toList else "out".toList) := by
      refine endsLine_of_visible fun c hc => ?_
      cases gained with
      | false =>
        have hletter : c = 'o' ∨ c = 'u' ∨ c = 't' := by simpa using hc
        rcases hletter with rfl | rfl | rfl <;> decide
      | true =>
        have hletter : c = 'i' ∨ c = 'n' := by simpa using hc
        rcases hletter with rfl | rfl <;> decide
    exact ⟨_, _, rfl, by decide, hvisible, by cases gained <;> rfl⟩

/-! ## Reading what was printed -/

/-- The lines of an event are lines without blanks around them. -/
theorem eventLines_trimmed {event : RecordedEvent} (hw : WellFormed event) :
    ∀ line ∈ eventLines event, Text.trim line = line ∧ '\n' ∉ line := by
  intro line hline
  by_cases h : IsBatch event
  · obtain ⟨names, rfl⟩ := h
    have hname := hw.2 line hline
    exact ⟨hname.trimmed, hname.oneLine⟩
  · obtain ⟨kind, payload, hlines, hkind, hend, -⟩ := eventLines_of_not_batch hw h
    rw [hlines, List.mem_singleton] at hline
    have hdirective : IsDirective kind payload line := ⟨hkind, hline⟩
    exact ⟨hdirective.trim_eq_self hend, hdirective.oneLine hend⟩

/-- Every printed line is one line without blanks around it. -/
theorem printLines_trimmed {events : List RecordedEvent} (h : ∀ event ∈ events, WellFormed event) :
    ∀ line ∈ printLines events, Text.trim line = line ∧ '\n' ∉ line := by
  intro line hline
  fun_induction printLines events with
  | case1 => exact absurd hline List.not_mem_nil
  | case2 names more rest ih =>
    rw [List.mem_append, List.mem_cons] at hline
    rcases hline with hline | rfl | hline
    · exact eventLines_trimmed (h (.keys names) List.mem_cons_self) line hline
    · exact ⟨rfl, List.not_mem_nil⟩
    · exact ih (fun event he => h event (List.mem_cons_of_mem _ he)) hline
  | case3 event rest _ ih =>
    rcases List.mem_append.mp hline with hline | hline
    · exact eventLines_trimmed (h event List.mem_cons_self) line hline
    · exact ih (fun other ho => h other (List.mem_cons_of_mem _ ho)) hline

/-- The names of keys are added to the batch that has not ended yet. -/
theorem readLines_names {names : List Text} (h : ∀ name ∈ names, IsKeyName name) (number : Nat)
    (batch rest : List Text) :
    readLines number batch (names ++ rest) =
      readLines (number + names.length) (batch ++ names) rest := by
  induction names generalizing number batch with
  | nil => simp
  | cons name names ih =>
    have hname := (h name List.mem_cons_self).keyLine
    have hnames : ∀ other ∈ names, IsKeyName other :=
      fun other ho => h other (List.mem_cons_of_mem name ho)
    rw [List.cons_append, readLines_key _ _ _ hname, ih hnames, List.length_cons,
      List.append_assoc, List.singleton_append, Nat.add_assoc, Nat.add_comm 1]

/-- Reading the lines of events after a batch that has not ended yet gives the batch and the events,
provided that the events do not go on with keys, which would join the batch. -/
theorem readLines_printLines {events : List RecordedEvent}
    (h : ∀ event ∈ events, WellFormed event) (number : Nat) (batch : List Text)
    (hbatch : batch = [] ∨ ∀ names rest, events ≠ .keys names :: rest) :
    readLines number batch (printLines events) =
      { warnings := [], events := .ok (batchEvent batch ++ events) } := by
  fun_induction printLines events generalizing number batch with
  | case1 => rw [readLines, List.append_nil]
  | case2 names more rest ih =>
    obtain rfl : batch = [] := hbatch.resolve_right fun hne => hne names _ rfl
    obtain ⟨hnames, hkeys⟩ := h (.keys names) List.mem_cons_self
    have hrest := ih (fun event he => h event (List.mem_cons_of_mem _ he))
      (number + names.length + 1) [] (Or.inl rfl)
    rw [readLines_names hkeys, List.nil_append, readLines_blank, hrest,
      batchEvent_of_ne_nil hnames]
    rfl
  | case3 event rest hsplit ih =>
    have hrest := ih fun other ho => h other (List.mem_cons_of_mem _ ho)
    have hw := h event List.mem_cons_self
    by_cases hkeys : IsBatch event
    · obtain ⟨names, rfl⟩ := hkeys
      obtain rfl : batch = [] := hbatch.resolve_right fun hne => hne names _ rfl
      have hnext : ∀ more others, rest ≠ .keys more :: others :=
        fun more others he => hsplit names more others rfl he
      rw [eventLines, readLines_names hw.2, List.nil_append, hrest _ names (Or.inr hnext),
        batchEvent_of_ne_nil hw.1]
      rfl
    · obtain ⟨kind, payload, hlines, hkind, -, hevent⟩ := eventLines_of_not_batch hw hkeys
      rw [hlines, List.singleton_append, readLines_event _ _ _ ⟨hkind, rfl⟩ hevent,
        hrest (number + 1) [] (Or.inl rfl)]
      show ({ warnings := [], events := .ok (batchEvent batch ++ [event] ++ rest) } : Reading) = _
      rw [List.append_assoc, List.singleton_append]

/-- A text made of trimmed lines is read as these lines. -/
theorem read_join {lines : List Text} (h : ∀ line ∈ lines, Text.trim line = line ∧ '\n' ∉ line)
    (hne : lines ≠ []) : read (Text.join ['\n'] lines) = readLines 1 [] lines := by
  have htrim : lines.map Text.trim = lines := by
    rw [List.map_congr_left fun line hl => (h line hl).1, List.map_id']
  rw [read, Text.splitOn_join (fun line hl => (h line hl).2) hne, htrim]

theorem eventLines_ne_nil {event : RecordedEvent} (hw : WellFormed event) :
    eventLines event ≠ [] := by
  cases event with
  | keys names => exact hw.1
  | _ => exact List.cons_ne_nil _ _

theorem printLines_ne_nil {events : List RecordedEvent}
    (h : ∀ event ∈ events, WellFormed event) (hne : events ≠ []) : printLines events ≠ [] := by
  fun_cases printLines events with
  | case1 => exact absurd rfl hne
  | case2 names more rest => simp
  | case3 event rest => simp [eventLines_ne_nil (h event List.mem_cons_self)]

/-- Reading the canonical text of events gives exactly these events, and no line is dropped. -/
theorem read_print {events : List RecordedEvent} (h : ∀ event ∈ events, WellFormed event) :
    read (print events) = { warnings := [], events := .ok events } := by
  cases events with
  | nil => rfl
  | cons event rest =>
    have hne := printLines_ne_nil h (List.cons_ne_nil event rest)
    rw [print, read_join (printLines_trimmed h) hne, readLines_printLines h 1 [] (Or.inl rfl)]
    rfl

/-- Two batches of keys, an event of each kind, and a key that is named like a directive. -/
def sampleSession : List RecordedEvent :=
  [.keys ["j".toList, "C-x".toList], .keys ["k".toList], .press .left 10 5, .release 10 5,
    .keys ["mouse".toList], .drag .right 12 0, .scroll .up 65535 7, .move 4 4,
    .paste "é\n#".toList, .paste [], .resize 120 50, .focus true, .focus false]

theorem read_print_sampleSession :
    (∀ event ∈ sampleSession, WellFormed event) ∧
      read (print sampleSession) = { warnings := [], events := .ok sampleSession } :=
  ⟨by decide, read_print (by decide)⟩

example :
    printLines sampleSession =
      ["j", "C-x", "", "k", "mouse:press left 10,5", "mouse:release 10,5", "mouse",
        "mouse:drag right 12,0", "mouse:scroll up 65535,7", "mouse:move 4,4", "paste:w6kKIw==",
        "paste:", "resize:120x50", "focus:in", "focus:out"].map String.toList := by
  decide +kernel

end TermPilot.Recording
