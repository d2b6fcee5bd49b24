import TermPilot.Proofs.Terminal.Script

/-!
# Surroundings of a wait

A wait reads a clock, takes samples, sleeps and writes to the log. Nothing is known of the clock and
of the samples: each reading and each sample may be any, and may depend on all that has happened
before. What happens is kept as a history, the earliest first.
-/

namespace TermPilot.Wait

/-- Something that happens while a wait goes on. -/
inductive Event (α : Type) where
  | read (time : Float)
  | sampled (sample : α)
  | slept (seconds : Float)
  | logged (record : LogRecord)

namespace Event

variable {α : Type}

/-- The sample that was taken, if one was. -/
def sample? : Event α → Option α
  | .sampled sample => some sample
  | _ => none

/-- The time that was read, if it was. -/
def reading? : Event α → Option Float
  | .read time => some time
  | _ => none

/-- The time that was let pass, if it was. -/
def sleep? : Event α → Option Float
  | .slept seconds => some seconds
  | _ => none

end Event

/-- The samples that were taken, in order. -/
def samples {α : Type} (history : List (Event α)) : List α := history.filterMap Event.sample?

/-- The times that were read, in order. -/
def readings {α : Type} (history : List (Event α)) : List Float :=
  history.filterMap Event.reading?

/-- The times that were let pass, in order. -/
def sleeps {α : Type} (history : List (Event α)) : List Float := history.filterMap Event.sleep?

/-- A clock, and something that samples are taken of, each given by what has happened so far. -/
structure Surroundings (α : Type) where
  time : List (Event α) → Float
  sample : List (Event α) → α

namespace Surroundings

variable {α : Type} (s : Surroundings α)

/-- The clock and the log, on the history. -/
def bench : Bench (List (Event α)) where
  now := modifyGet fun past => (s.time past, past ++ [.read (s.time past)])
  sleep := fun seconds => modify (· ++ [.slept seconds])
  log := fun record => modify (· ++ [.logged record])

/-- Takes a sample, on the history. -/
def take : Act Fault (List (Event α)) α :=
  modifyGet fun past => (s.sample past, past ++ [.sampled (s.sample past)])

/-- A terminal whose screens are the samples. -/
def rig (s : Surroundings Text) : Rig (List (Event Text)) where
  toBench := s.bench
  send := fun _ => return ()
  capture := s.take
  resize := fun _ _ => return ()

theorem run_now (past : List (Event α)) :
    s.bench.now.run.run past = (.ok (s.time past), past ++ [.read (s.time past)]) := rfl

theorem run_sleep (seconds : Float) (past : List (Event α)) :
    (s.bench.sleep seconds).run.run past = (.ok (), past ++ [.slept seconds]) := rfl

theorem run_log (record : LogRecord) (past : List (Event α)) :
    (s.bench.log record).run.run past = (.ok (), past ++ [.logged record]) := rfl

/-! ## Histories of the surroundings -/

/-- The event can come after the given history: a reading and a sample are what they must be. -/
def Allows (past : List (Event α)) : Event α → Prop
  | .read time => time = s.time past
  | .sampled sample => sample = s.sample past
  | .slept _ | .logged _ => True

/-- The events can come one after the other after the given history. -/
def Gives : List (Event α) → List (Event α) → Prop
  | _, [] => True
  | past, event :: later => s.Allows past event ∧ Gives (past ++ [event]) later

theorem gives_append {past new later : List (Event α)} :
    s.Gives past (new ++ later) ↔ s.Gives past new ∧ s.Gives (past ++ new) later := by
  induction new generalizing past with
  | nil => simp [Gives]
  | cons event new ih =>
    rw [List.cons_append, Gives, Gives, ih, List.append_assoc, List.singleton_append, and_assoc]

/-- Every sample that is taken is one of the surroundings. -/
theorem Gives.exists_sample {s : Surroundings α} {past new : List (Event α)} (h : s.Gives past new)
    {sample : α} (hsample : .sampled sample ∈ new) : ∃ earlier, sample = s.sample earlier := by
  induction new generalizing past with
  | nil => cases hsample
  | cons event new ih =>
    rcases List.mem_cons.mp hsample with rfl | hlater
    · exact ⟨past, h.1⟩
    · exact ih h.2 hlater

section Follows

variable {s} {β γ : Type} {act : Act Fault (List (Event α)) β}

/-- Whatever has happened, the act adds to the history what the surroundings give. -/
def Follows (s : Surroundings α) (act : Act Fault (List (Event α)) β) : Prop :=
  ∀ past, ∃ new, (act.run.run past).2 = past ++ new ∧ s.Gives past new

theorem follows_now : s.Follows s.bench.now :=
  fun past => ⟨[.read (s.time past)], rfl, rfl, trivial⟩

theorem follows_sleep (seconds : Float) : s.Follows (s.bench.sleep seconds) :=
  fun _ => ⟨[.slept seconds], rfl, trivial, trivial⟩

theorem follows_log (record : LogRecord) : s.Follows (s.bench.log record) :=
  fun _ => ⟨[.logged record], rfl, trivial, trivial⟩

theorem follows_pure (value : β) : s.Follows (pure value) :=
  fun past => ⟨[], (List.append_nil past).symm, trivial⟩

theorem follows_throw (fault : Fault) : s.Follows (throw fault : Act Fault _ β) :=
  fun past => ⟨[], (List.append_nil past).symm, trivial⟩

theorem follows_settle : (outcome : Except Fault β) → s.Follows (Act.settle outcome)
  | .ok value => follows_pure value
  | .error fault => follows_throw fault

theorem Follows.bind {next : β → Act Fault (List (Event α)) γ} (h : s.Follows act)
    (hnext : ∀ b, s.Follows (next b)) : s.Follows (act >>= next) := by
  intro past
  obtain ⟨new, hnew, hgives⟩ := h past
  rcases hrun : act.run.run past with ⟨error | b, middle⟩
  · rw [hrun] at hnew
    exact ⟨new, by rw [Act.run_bind_of_error hrun]; exact hnew, hgives⟩
  · rw [hrun] at hnew
    obtain rfl : middle = past ++ new := hnew
    obtain ⟨later, hlater, hgives'⟩ := hnext b (past ++ new)
    refine ⟨new ++ later, ?_, s.gives_append.mpr ⟨hgives, hgives'⟩⟩
    rw [Act.run_bind_of_ok hrun, hlater, List.append_assoc]

/-- The act takes one sample of the surroundings and gives what `view` makes of it. -/
def IsSample (s : Surroundings α) (act : Act Fault (List (Event α)) β) (view : α → β) : Prop :=
  ∀ past, act.run.run past = (.ok (view (s.sample past)), past ++ [.sampled (s.sample past)])

theorem IsSample.follows {view : α → β} (h : s.IsSample act view) : s.Follows act :=
  fun past => ⟨[.sampled (s.sample past)], by rw [h past], rfl, trivial⟩

end Follows

theorem isSample_take : s.IsSample s.take id := fun _ => rfl

theorem isSample_capture (s : Surroundings Text) : s.IsSample s.rig.capture id := fun _ => rfl

theorem isSample_captureScreen (s : Surroundings Text) :
    s.IsSample s.rig.captureScreen Screen.withVisible := fun _ => rfl

end Surroundings

end TermPilot.Wait
