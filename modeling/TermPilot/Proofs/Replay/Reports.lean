import Mathlib.Algebra.Group.Int.Defs
import TermPilot.Proofs.Number.Decimal
import TermPilot.Proofs.Replay.Events
import TermPilot.Proofs.Text.Parts

/-!
# Reports

What is done with the mouse, pastes and changes of the focus are replayed as reports, one after the
other and with nothing between them. The program in the terminal can still tell them apart: every
report shows by its first characters what it is and by the others where it ends, so that a text is
made of reports in one way at most. A position with too many digits to be written has no report, and
ends the replay.
-/

namespace TermPilot.Replay

open Double (digits digits_append_inj isWritable_iff)
open Recording (IsBatch)

/-! ## What is a report -/

/-- The event is replayed as a report that shows where it ends: a position counts from zero, and a
pasted text does not have in it what ends a paste. -/
def IsReport : RecordedEvent → Prop
  | .press _ col row | .release col row | .drag _ col row | .scroll _ col row | .move col row =>
    0 ≤ col ∧ 0 ≤ row
  | .paste text => ¬ pasteEnd <:+: text
  | .focus _ => True
  | .keys _ | .resize _ _ => False

instance : DecidablePred IsReport
  | .press _ col row | .release col row | .drag _ col row | .scroll _ col row | .move col row =>
    inferInstanceAs (Decidable (0 ≤ col ∧ 0 ≤ row))
  | .paste text => inferInstanceAs (Decidable (¬ pasteEnd <:+: text))
  | .focus _ => instDecidableTrue
  | .keys _ | .resize _ _ => instDecidableFalse

/-- What is sent for a report. -/
def report (e : RecordedEvent) : Text := (event .standard {} ⟨0, 0⟩ e).texts.flatten

/-! ## The mouse -/

section Mouse

variable {code code' : Nat} {col row col' row' : Int} {final final' : Char} {s t : Text}

/-- The report of a position that can be written. -/
def mouseText (code : Nat) (col row : Int) (final : Char) : Text :=
  Terminal.controlSequence s!"<{code};{col + 1};{row + 1}" (String.singleton final)

theorem mouseText_eq (hcol : 0 ≤ col) (hrow : 0 ≤ row) :
    mouseText code col row final =
      Terminal.esc :: '[' :: '<' :: (digits code ++ ';' :: (digits (col.toNat + 1) ++
        ';' :: (digits (row.toNat + 1) ++ [final]))) := by
  have htext {n : Int} (hn : 0 ≤ n) : toString (n + 1) = toString (n.toNat + 1) := by
    obtain ⟨m, rfl⟩ := Int.eq_ofNat_of_zero_le hn
    rfl
  have hliteral (text : String) : toString text = text := rfl
  rw [mouseText, htext hcol, htext hrow, Terminal.controlSequence]
  simp [hliteral, digits]

/-- Numbers in a report end where their digits end. -/
theorem mouseText_append_inj (hcol : 0 ≤ col) (hrow : 0 ≤ row) (hcol' : 0 ≤ col')
    (hrow' : 0 ≤ row') (hfinal : final.isDigit = false) (hfinal' : final'.isDigit = false)
    (h : mouseText code col row final ++ s = mouseText code' col' row' final' ++ t) :
    code = code' ∧ col = col' ∧ row = row' ∧ final = final' ∧ s = t := by
  rw [mouseText_eq hcol hrow, mouseText_eq hcol' hrow'] at h
  simp only [List.cons_append, List.append_assoc, List.nil_append, List.cons.injEq, true_and] at h
  obtain ⟨hcode, -, h⟩ := digits_append_inj rfl rfl h
  obtain ⟨hcols, -, h⟩ := digits_append_inj rfl rfl h
  obtain ⟨hrows, hfinals, h⟩ := digits_append_inj hfinal hfinal' h
  exact ⟨hcode, by omega, by omega, hfinals, h⟩

/-- What happened with the mouse by the code and the final letter of the report. -/
def mouseEvent? (col row : Int) : Nat → Char → Option RecordedEvent
  | 0, 'm' => some (.release col row)
  | 0, 'M' => some (.press .left col row)
  | 1, 'M' => some (.press .middle col row)
  | 2, 'M' => some (.press .right col row)
  | 32, 'M' => some (.drag .left col row)
  | 33, 'M' => some (.drag .middle col row)
  | 34, 'M' => some (.drag .right col row)
  | 35, 'M' => some (.move col row)
  | 64, 'M' => some (.scroll .up col row)
  | 65, 'M' => some (.scroll .down col row)
  | 66, 'M' => some (.scroll .left col row)
  | 67, 'M' => some (.scroll .right col row)
  | _, _ => none

/-- The event is reported with the code, the position and the final letter, which tell the event.
The position counts from zero, and its numbers end at the letter. -/
structure Points (e : RecordedEvent) (code : Nat) (col row : Int) (final : Char) : Prop where
  col_nonneg : 0 ≤ col
  row_nonneg : 0 ≤ row
  final_letter : final.isDigit = false
  told : mouseEvent? col row code final = some e
  text : report e = mouseText code col row final

theorem Points.append_inj {e e' : RecordedEvent} (h : Points e code col row final)
    (h' : Points e' code' col' row' final') (heq : report e ++ s = report e' ++ t) :
    e = e' ∧ s = t := by
  rw [h.text, h'.text] at heq
  obtain ⟨rfl, rfl, rfl, rfl, hrest⟩ := mouseText_append_inj h.col_nonneg h.row_nonneg
    h'.col_nonneg h'.row_nonneg h.final_letter h'.final_letter heq
  have htold := h.told.symm.trans h'.told
  exact ⟨Option.some.inj htold, hrest⟩

end Mouse

/-! ## Reports one after the other -/

section Reports

variable {e e' : RecordedEvent} {s t : Text}

theorem texts_sendOutcome {outcome : Except Fault Text} {text : Text} (h : outcome = .ok text) :
    (Script.sendOutcome outcome).texts.flatten = text := by
  rw [h]
  exact List.append_nil text

theorem report_paste (text : Text) : report (.paste text) = pasteStart ++ text ++ pasteEnd :=
  List.append_nil _

theorem report_focus (gained : Bool) :
    report (.focus gained) = [Terminal.esc, '[', if gained then 'I' else 'O'] := by
  cases gained <;> rfl

/-- A report is one of the mouse, a paste or a change of the focus. -/
inductive IsKind : RecordedEvent → Prop
  | mouse {e : RecordedEvent} (code : Nat) (col row : Int) (final : Char)
    (h : Points e code col row final) : IsKind e
  | paste (text : Text) (h : ¬ pasteEnd <:+: text) : IsKind (.paste text)
  | focus (gained : Bool) : IsKind (.focus gained)

theorem report_mouse {code : Nat} {col row : Int} {final : Char} {word : String}
    (hword : word = String.singleton final)
    (hevent : event .standard {} ⟨0, 0⟩ e = .sendOutcome (Mouse.sequence code col row word))
    (hshort : ¬ (¬ IsWritable (col + 1) ∨ ¬ IsWritable (row + 1))) :
    report e = mouseText code col row final := by
  rw [not_or, not_not, not_not] at hshort
  rw [report, hevent, hword]
  exact texts_sendOutcome (Mouse.sequence_of_isWritable _ _ hshort.1 hshort.2)

theorem IsReport.isKind (h : IsReport e) (hshort : ¬ HasOverlongPosition e) : IsKind e := by
  cases e with
  | keys names => exact h.elim
  | resize cols rows => exact h.elim
  | press button col row =>
    have htold : mouseEvent? col row button.code 'M' = some (.press button col row) := by
      cases button <;> rfl
    exact .mouse button.code col row 'M' ⟨h.1, h.2, rfl, htold, report_mouse rfl rfl hshort⟩
  | release col row => exact .mouse 0 col row 'm' ⟨h.1, h.2, rfl, rfl, report_mouse rfl rfl hshort⟩
  | drag button col row =>
    have htold : mouseEvent? col row (button.code + Mouse.motion) 'M' =
        some (.drag button col row) := by
      cases button <;> rfl
    exact .mouse (button.code + Mouse.motion) col row 'M'
      ⟨h.1, h.2, rfl, htold, report_mouse rfl rfl hshort⟩
  | scroll direction col row =>
    have htold : mouseEvent? col row direction.code 'M' = some (.scroll direction col row) := by
      cases direction <;> rfl
    exact .mouse direction.code col row 'M' ⟨h.1, h.2, rfl, htold, report_mouse rfl rfl hshort⟩
  | move col row =>
    exact .mouse (Mouse.motion + Mouse.noButton) col row 'M'
      ⟨h.1, h.2, rfl, rfl, report_mouse rfl rfl hshort⟩
  | paste text => exact .paste text h
  | focus gained => exact .focus gained

/-! The character after the beginning of the control sequence tells the three apart. -/

theorem Points.third {code : Nat} {col row : Int} {final : Char} (h : Points e code col row final) :
    (report e ++ s)[2]? = some '<' := by
  rw [h.text, mouseText_eq h.col_nonneg h.row_nonneg]
  rfl

theorem third_paste (text : Text) : (report (.paste text) ++ s)[2]? = some '2' := by
  rw [report_paste, List.append_assoc, List.append_assoc]
  rfl

theorem third_focus (gained : Bool) :
    (report (.focus gained) ++ s)[2]? = some (if gained then 'I' else 'O') := by
  rw [report_focus]
  rfl

theorem paste_append_inj {text text' : Text} (h : ¬ pasteEnd <:+: text) (h' : ¬ pasteEnd <:+: text')
    (heq : report (.paste text) ++ s = report (.paste text') ++ t) : text = text' ∧ s = t := by
  rw [report_paste, report_paste, List.append_assoc, List.append_assoc, List.append_assoc,
    List.append_assoc] at heq
  have hend : pasteEnd = Terminal.esc :: "[201~".toList := rfl
  have hfirst : Terminal.esc ∉ "[201~".toList := by decide
  have hrest := List.append_cancel_left heq
  rw [hend] at h h' hrest
  have hprefix : text <+: text' := Text.prefix_of_append_marker hfirst h hrest.symm
  have hprefix' : text' <+: text := Text.prefix_of_append_marker hfirst h' hrest
  obtain rfl := hprefix.eq_of_length_le hprefix'.length_le
  exact ⟨rfl, List.append_cancel_left (List.append_cancel_left hrest)⟩

/-- What comes after a report is told apart from it: the first report of a text and the rest of the
text are determined by the text. -/
theorem report_append_inj (h : IsKind e) (h' : IsKind e')
    (heq : report e ++ s = report e' ++ t) : e = e' ∧ s = t := by
  -- reports of different kinds differ in their third characters
  have hthird : (report e ++ s)[2]? = (report e' ++ t)[2]? := by rw [heq]
  cases h with
  | mouse code col row final hpoints =>
    rw [hpoints.third] at hthird
    cases h' with
    | mouse code' col' row' final' hpoints' => exact hpoints.append_inj hpoints' heq
    | paste text' hfree' =>
      rw [third_paste] at hthird
      exact absurd hthird (by decide)
    | focus gained' =>
      rw [third_focus] at hthird
      exact absurd hthird (by cases gained' <;> decide)
  | paste text hfree =>
    rw [third_paste] at hthird
    cases h' with
    | mouse code' col' row' final' hpoints' =>
      rw [hpoints'.third] at hthird
      exact absurd hthird (by decide)
    | paste text' hfree' =>
      obtain ⟨rfl, hrest⟩ := paste_append_inj hfree hfree' heq
      exact ⟨rfl, hrest⟩
    | focus gained' =>
      rw [third_focus] at hthird
      exact absurd hthird (by cases gained' <;> decide)
  | focus gained =>
    rw [third_focus] at hthird
    cases h' with
    | mouse code' col' row' final' hpoints' =>
      rw [hpoints'.third] at hthird
      exact absurd hthird (by cases gained <;> decide)
    | paste text' hfree' =>
      rw [third_paste] at hthird
      exact absurd hthird (by cases gained <;> decide)
    | focus gained' =>
      rw [report_focus, report_focus] at heq
      cases gained <;> cases gained' <;> simp_all

theorem report_ne_nil (h : IsKind e) : report e ≠ [] := by
  intro hnil
  cases h with
  | mouse code col row final hpoints =>
    rw [hpoints.text] at hnil
    cases hnil
  | paste text hfree =>
    rw [report_paste] at hnil
    cases hnil
  | focus gained =>
    rw [report_focus] at hnil
    cases hnil

/-- A text is made of reports in one way at most. -/
theorem flatten_report_inj {sent sent' : List RecordedEvent} (h : ∀ e ∈ sent, IsKind e)
    (h' : ∀ e ∈ sent', IsKind e)
    (heq : (sent.map report).flatten = (sent'.map report).flatten) : sent = sent' := by
  -- both lists go on with a report, as a report is not empty; the first ones are the same
  induction sent generalizing sent' with
  | nil =>
    cases sent' with
    | nil => rfl
    | cons e' rest' =>
      have hnil : report e' = [] := (List.append_eq_nil_iff.mp heq.symm).1
      exact absurd hnil (report_ne_nil (h' e' List.mem_cons_self))
  | cons e rest ih =>
    obtain ⟨he, hrest⟩ := List.forall_mem_cons.mp h
    cases sent' with
    | nil =>
      have hnil : report e = [] := (List.append_eq_nil_iff.mp heq).1
      exact absurd hnil (report_ne_nil he)
    | cons e' rest' =>
      obtain ⟨he', hrest'⟩ := List.forall_mem_cons.mp h'
      obtain ⟨rfl, htail⟩ := report_append_inj he he' heq
      rw [ih hrest hrest' htail]

end Reports

/-! ## Replays of reports -/

section Events

variable {encoder : KeyEncoder} {modes : KeyModes} {timing : ReplayTiming} {e : RecordedEvent}
  {sent : List RecordedEvent}

/-- A report does not depend on what keys are encoded with, and is sent as one text. -/
theorem event_of_isReport (h : IsReport e) (hshort : ¬ HasOverlongPosition e) :
    event encoder modes timing e = .of [.send (report e)] := by
  have hsent : ∃ text, ∀ encoder modes timing, event encoder modes timing e = .of [.send text] := by
    cases e with
    | keys names => exact h.elim
    | resize cols rows => exact h.elim
    | press | release | drag | scroll | move =>
      obtain ⟨hcol, hrow⟩ := not_or.mp hshort
      exact ⟨_, fun _ _ _ => congrArg Script.sendOutcome
        (Mouse.sequence_of_isWritable _ _ (not_not.mp hcol) (not_not.mp hrow))⟩
    | paste | focus => exact ⟨_, fun _ _ _ => rfl⟩
  obtain ⟨text, htext⟩ := hsent
  have hreport : report e = text := by
    rw [report, htext]
    exact List.append_nil text
  rw [htext, hreport]

theorem event_of_hasOverlongPosition (encoder : KeyEncoder) (modes : KeyModes)
    (timing : ReplayTiming) (h : HasOverlongPosition e) :
    ∃ number, event encoder modes timing e = .fail (.unwritable number) := by
  have hkeys : ¬ IsBatch e := by
    rintro ⟨names, rfl⟩
    exact h
  obtain ⟨script, hrun, hfail, -⟩ :=
    run_eventWith_of_not_isBatch encoder.recalling modes timing () hkeys
  obtain ⟨number, rfl⟩ := hfail h
  exact ⟨number, congrArg Prod.fst hrun⟩

/-- Reports are sent one by one, up to the first whose position cannot be written. -/
theorem texts_events_of_isReport (h : ∀ e ∈ sent, IsReport e) :
    (events encoder modes timing sent).texts =
      (sent.takeWhile (¬ HasOverlongPosition ·)).map report := by
  rw [events_eq_sequence]
  induction sent with
  | nil => rfl
  | cons e rest ih =>
    obtain ⟨he, hrest⟩ := List.forall_mem_cons.mp h
    rw [List.map_cons, Script.sequence]
    by_cases hlong : HasOverlongPosition e
    · obtain ⟨number, hevent⟩ := event_of_hasOverlongPosition encoder modes timing hlong
      rw [hevent, List.takeWhile_cons_of_neg (by simpa using hlong)]
      rfl
    · have htexts := ih hrest
      rw [Script.texts] at htexts
      rw [event_of_isReport he hlong, Script.texts, Script.actions_andThen rfl,
        List.filterMap_append, htexts, List.takeWhile_cons_of_pos (by simpa using hlong)]
      rfl

theorem isKind_of_mem_takeWhile (h : ∀ e ∈ sent, IsReport e) :
    ∀ e ∈ sent.takeWhile (¬ HasOverlongPosition ·), IsKind e := by
  intro e he
  have hshort : ¬ HasOverlongPosition e := by simpa using List.mem_takeWhile_imp he
  exact (h e ((List.takeWhile_prefix _).mem he)).isKind hshort

end Events

/-- Reports are replayed as the same characters exactly if they are the same reports up to the first
whose position cannot be written, whatever keys are encoded with and whatever the timing. -/
theorem events_reports_inj {encoder encoder' : KeyEncoder} {modes modes' : KeyModes}
    {timing timing' : ReplayTiming} {sent sent' : List RecordedEvent} (h : ∀ e ∈ sent, IsReport e)
    (h' : ∀ e ∈ sent', IsReport e) :
    (events encoder modes timing sent).texts.flatten =
        (events encoder' modes' timing' sent').texts.flatten ↔
      sent.takeWhile (¬ HasOverlongPosition ·) = sent'.takeWhile (¬ HasOverlongPosition ·) := by
  rw [texts_events_of_isReport h, texts_events_of_isReport h']
  constructor
  · exact flatten_report_inj (isKind_of_mem_takeWhile h) (isKind_of_mem_takeWhile h')
  · intro hsame
    rw [hsame]

/-- Reports of every kind; the pasted text looks like reports and ends as if its end began. -/
def sampleReports : List RecordedEvent :=
  [.press .right 0 9, .release 0 9, .drag .left 10 9, .scroll .down 12345678901234567890 0,
    .move 1 1, .paste "\x1b[<0;1;1M\x1b[O\x1b[200~\x1b[201".toList, .focus true,
    .paste [], .focus false]

theorem events_reports_inj_sampleReports :
    (∀ e ∈ sampleReports, IsReport e) ∧ (∀ e ∈ sampleReports.reverse, IsReport e) ∧
      sampleReports.takeWhile (¬ HasOverlongPosition ·) = sampleReports ∧
      ∀ timing, (events .standard {} timing sampleReports.reverse).texts.flatten ≠
        (events .standard {} timing sampleReports).texts.flatten := by
  have hall : ∀ e ∈ sampleReports, IsReport e := by decide +kernel
  have hreverse : ∀ e ∈ sampleReports.reverse, IsReport e := by decide +kernel
  have hshort : sampleReports.takeWhile (¬ HasOverlongPosition ·) = sampleReports := by
    decide +kernel
  have hshortReverse : sampleReports.reverse.takeWhile (¬ HasOverlongPosition ·) =
      sampleReports.reverse := by
    decide +kernel
  refine ⟨hall, hreverse, hshort, fun timing heq => ?_⟩
  have hsame := (events_reports_inj hreverse hall).mp heq
  rw [hshort, hshortReverse] at hsame
  exact absurd hsame (by decide)

/-- The least column that cannot be written. -/
def overlongColumn : Int := 10 ^ Numeral.maxDigits - 1

theorem hasOverlongPosition_move_overlongColumn (row : Int) :
    HasOverlongPosition (.move overlongColumn row) := by
  have hten : (10 : Int).natAbs = 10 := rfl
  refine Or.inl ?_
  rw [overlongColumn, Int.sub_add_cancel, isWritable_iff, Int.natAbs_pow, hten]
  exact Nat.lt_irrefl _

/-- A report whose position cannot be written is not told apart from no report. -/
theorem events_reports_not_inj : ¬ ∀ (encoder : KeyEncoder) (modes : KeyModes)
    (timing : ReplayTiming) (sent sent' : List RecordedEvent),
    (∀ e ∈ sent, IsReport e) → (∀ e ∈ sent', IsReport e) →
      (events encoder modes timing sent).texts.flatten =
        (events encoder modes timing sent').texts.flatten → sent = sent' := by
  intro h
  have hcolumn : 0 ≤ overlongColumn := by
    have hpositive : (0 : Int) < 10 ^ Numeral.maxDigits := Int.pow_pos (by decide)
    rw [overlongColumn]
    omega
  have hreport : ∀ e ∈ [RecordedEvent.move overlongColumn 0], IsReport e :=
    List.forall_mem_singleton.mpr ⟨hcolumn, Int.le_refl 0⟩
  have hsame := h .standard {} ⟨0, 0⟩ [.move overlongColumn 0] [] hreport (List.forall_mem_nil _)
  rw [texts_events_of_isReport hreport, texts_events_of_isReport (List.forall_mem_nil _),
    List.takeWhile_cons_of_neg
      (by simpa using hasOverlongPosition_move_overlongColumn 0)] at hsame
  cases hsame rfl

end TermPilot.Replay
