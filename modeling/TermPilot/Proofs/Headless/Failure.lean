import TermPilot.Headless.Terminal

/-!
# Calls that fail

A terminal whose program was not started has no channel to it. A call that needs the channel fails,
and should leave the terminal as it was. To send does: it looks for the channel first. To resize
does not: the size is written down and the screen is cut before the channel is looked for. Every
later call then finds a size that no program was told of.

The law is about runs of any length, so it rests on what every call preserves: there is no channel,
and the recorded size is the one that was asked for last and is the size of the screen, but for a
zero, which a screen does not follow.
-/

namespace TermPilot

/-! ## What is used of the emulated screen -/

namespace Emulator.Screen

variable (s : Screen) {cols rows : Int}

@[simp] theorem cols_resize :
    (s.resize cols rows).cols = if cols = 0 then s.cols else cols := rfl

@[simp] theorem rows_resize :
    (s.resize cols rows).rows = if rows = 0 then s.rows else rows := rfl

@[simp] theorem cols_useRows : s.useRows.cols = s.cols := by
  unfold useRows changeRows
  split <;> rfl

@[simp] theorem rows_useRows : s.useRows.rows = s.rows := by
  unfold useRows changeRows
  split <;> rfl

/-- A screen that has the size already stays as it is. -/
theorem resize_eq_self (hcols : cols = 0 ∨ cols = s.cols) (hrows : rows = 0 ∨ rows = s.rows) :
    s.resize cols rows = s := by
  have hc : (if cols = 0 then s.cols else cols) = s.cols := by
    rcases hcols with rfl | rfl <;> simp
  have hr : (if rows = 0 then s.rows else rows) = s.rows := by
    rcases hrows with rfl | rfl <;> simp
  simp only [resize, hc, hr, Int.lt_irrefl, if_false]

end Emulator.Screen

namespace HeadlessTerminal

/-! ## Calls -/

/-- What a terminal is asked to do while its program does not run. -/
inductive Call where
  | send (text : Text)
  | resize (size : TerminalSize)
  | capture
  | captureScreen

/-- The terminal after a call, and whether the call failed. -/
def Call.perform (t : HeadlessTerminal) : Call → HeadlessTerminal × Except Fault Unit
  | .send text => (t, (t.send text).map fun _ => ())
  | .resize size => t.resize size
  | .capture => (t.capture.2, .ok ())
  | .captureScreen => (t.captureScreen.2, .ok ())

/-- The terminal after calls, those that failed among them. -/
def after (t : HeadlessTerminal) (calls : List Call) : HeadlessTerminal :=
  calls.foldl (fun t call => (call.perform t).1) t

/-- The size that was asked for last, by a call or else from the start. -/
def lastSize : TerminalSize → List Call → TerminalSize
  | size, [] => size
  | _, .resize size :: calls => lastSize size calls
  | size, .send _ :: calls | size, .capture :: calls | size, .captureScreen :: calls =>
    lastSize size calls

/-- Nothing is seen to have changed from one terminal to the other: neither the size, nor the
dimensions of the screen, nor what it shows. -/
structure Agrees (t u : HeadlessTerminal) : Prop where
  size : u.size = t.size
  cols : u.stream.screen.cols = t.stream.screen.cols
  rows : u.stream.screen.rows = t.stream.screen.rows
  cells : u.stream.screen.cells = t.stream.screen.cells

theorem Agrees.refl (t : HeadlessTerminal) : t.Agrees t := ⟨rfl, rfl, rfl, rfl⟩

/-! ## Terminals without a channel -/

/-- There is no channel, the size is the recorded one, and the screen has it as far as it is not
zero. -/
structure IsIdle (size : TerminalSize) (t : HeadlessTerminal) : Prop where
  detached : t.attached = false
  recorded : t.size = size
  cols : size.cols = 0 ∨ size.cols = t.stream.screen.cols
  rows : size.rows = 0 ∨ size.rows = t.stream.screen.rows

variable {size other : TerminalSize} {t : HeadlessTerminal} {call : Call} {fault : Fault}

theorem isIdle_of_make {command : List Text} (h : make command size = .ok t) : t.IsIdle size := by
  unfold make at h
  split at h
  · cases h
  · cases h
    exact ⟨rfl, rfl, .inr rfl, .inr rfl⟩

theorem IsIdle.resize (h : t.IsIdle size) (other : TerminalSize) :
    (t.resize other).1.IsIdle other where
  detached := h.detached
  recorded := rfl
  cols := by
    by_cases hzero : other.cols = 0
    · exact .inl hzero
    · exact .inr (by simp [HeadlessTerminal.resize, hzero])
  rows := by
    by_cases hzero : other.rows = 0
    · exact .inl hzero
    · exact .inr (by simp [HeadlessTerminal.resize, hzero])

theorem IsIdle.capture (h : t.IsIdle size) : t.capture.2.IsIdle size where
  detached := h.detached
  recorded := h.recorded
  cols := by simpa [HeadlessTerminal.capture] using h.cols
  rows := by simpa [HeadlessTerminal.capture] using h.rows

/-- What one call preserves. -/
theorem IsIdle.perform (h : t.IsIdle size) :
    (call : Call) → (call.perform t).1.IsIdle (lastSize size [call])
  | .send _ => h
  | .resize other => h.resize other
  | .capture | .captureScreen => h.capture

theorem lastSize_cons (size : TerminalSize) (call : Call) (calls : List Call) :
    lastSize size (call :: calls) = lastSize (lastSize size [call]) calls := by
  cases call <;> rfl

/-- What a run of calls preserves. -/
theorem IsIdle.after (h : t.IsIdle size) (calls : List Call) :
    (t.after calls).IsIdle (lastSize size calls) := by
  induction calls generalizing t size with
  | nil => exact h
  | cons call calls ih =>
    rw [lastSize_cons]
    exact ih (h.perform call)

/-! ## Which calls fail -/

/-- The call has something to say to the program. -/
def Call.NeedsChannel : Call → Prop
  | .send text => text ≠ []
  | .resize _ => True
  | .capture | .captureScreen => False

/-- Without a channel no size can be told, be it one that a program can be told of or not. -/
theorem IsIdle.resize_eq_error (h : t.IsIdle size) (other : TerminalSize) :
    (t.resize other).2 = .error (if isTellable other.cols && isTellable other.rows then .notStarted
      else .sizeOutOfRange) := by
  cases htell : isTellable other.cols && isTellable other.rows <;>
    simp [HeadlessTerminal.resize, h.detached, htell]

theorem IsIdle.fails_iff (h : t.IsIdle size) (call : Call) :
    (∃ fault, (call.perform t).2 = .error fault) ↔ call.NeedsChannel := by
  cases call with
  | send text => cases text <;> simp [Call.perform, Call.NeedsChannel, send, h.detached, Except.map]
  | resize other => simp [Call.perform, Call.NeedsChannel, h.resize_eq_error]
  | capture => simp [Call.perform, Call.NeedsChannel]
  | captureScreen => simp [Call.perform, Call.NeedsChannel]

/-! ## What a failing call changes -/

/-- A resize leaves the terminal as it was exactly if it asks for the recorded size. -/
theorem IsIdle.agrees_resize_iff (h : t.IsIdle size) :
    t.Agrees (t.resize other).1 ↔ other = size := by
  constructor
  · intro hsame
    exact hsame.size.trans h.recorded
  · rintro rfl
    have hself : (t.resize other).1 = t := by
      simp only [HeadlessTerminal.resize, t.stream.screen.resize_eq_self h.cols h.rows]
      rw [← h.recorded]
    rw [hself]
    exact .refl t

/-- A call that fails leaves the terminal as it was exactly if it is no resize to a size other than
the recorded one. -/
theorem IsIdle.agrees_perform_iff (h : t.IsIdle size) (hfault : (call.perform t).2 = .error fault) :
    t.Agrees (call.perform t).1 ↔ ∀ other, call = .resize other → other = size := by
  cases call with
  | send text =>
    constructor
    · intro _ other hother
      cases hother
    · intro _
      exact .refl t
  | resize other =>
    rw [Call.perform, h.agrees_resize_iff]
    constructor
    · intro hsize _ hother
      cases hother
      exact hsize
    · intro hsize
      exact hsize other rfl
  | capture => cases hfault
  | captureScreen => cases hfault

/-- Whatever was asked of a terminal before, what fails is what needs the channel. -/
theorem fails_after_iff {command : List Text} (h : make command size = .ok t) (calls : List Call)
    (call : Call) :
    (∃ fault, (call.perform (t.after calls)).2 = .error fault) ↔ call.NeedsChannel :=
  ((isIdle_of_make h).after calls).fails_iff call

/-- Whatever was asked of a terminal before: a call that fails leaves its size and its screen as
they were, unless it is a resize to a size other than the one that was asked for last, which never
leaves them so. -/
theorem agrees_of_fault_iff {command : List Text} (h : make command size = .ok t)
    (calls : List Call) (call : Call) (hfault : (call.perform (t.after calls)).2 = .error fault) :
    (t.after calls).Agrees (call.perform (t.after calls)).1 ↔
      ∀ other, call = .resize other → other = lastSize size calls :=
  ((isIdle_of_make h).after calls).agrees_perform_iff hfault

/-- A new terminal of five columns and two rows. -/
def small : HeadlessTerminal :=
  { size := ⟨5, 2⟩, stream := { screen := .ofSize 5 2 } }

/-- The first of two equal resizes records the size, so that the second one changes nothing. -/
theorem agrees_second_resize :
    make ["sh".toList] ⟨5, 2⟩ = .ok small ∧
    ((Call.resize ⟨7, 2⟩).perform (small.after [.send ['x'], .resize ⟨7, 2⟩])).2 =
      .error .notStarted ∧
    (small.after [.send ['x'], .resize ⟨7, 2⟩]).Agrees
      ((Call.resize ⟨7, 2⟩).perform (small.after [.send ['x'], .resize ⟨7, 2⟩])).1 := by
  have hmake : make ["sh".toList] ⟨5, 2⟩ = .ok small := rfl
  refine ⟨hmake, rfl, (agrees_of_fault_iff hmake _ _ rfl).mpr ?_⟩
  intro other hother
  cases hother
  rfl

/-- A resize that fails leaves another size and another screen behind. -/
theorem not_agrees_first_resize :
    ¬ ∀ (command : List Text) (size : TerminalSize) (t : HeadlessTerminal) (calls : List Call)
      (call : Call) (fault : Fault), make command size = .ok t →
      (call.perform (t.after calls)).2 = .error fault →
      (t.after calls).Agrees (call.perform (t.after calls)).1 := by
  intro hall
  have hsame := hall ["sh".toList] ⟨5, 2⟩ small [] (.resize ⟨7, 2⟩) .notStarted rfl rfl
  exact absurd hsame.cols (by decide)

end HeadlessTerminal

end TermPilot
