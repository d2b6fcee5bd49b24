import TermPilot.Proofs.Terminal.Script
import TermPilot.Proofs.Wait.Surroundings
import TermPilot.Wait.Screen

/-!
# What a wait does

A wait makes attempts. An attempt takes a sample; if the sample is not accepted, it reads the clock;
if the time is not over, it sleeps. So all attempts of a wait but the last fail in time, and the last
one decides how the wait ends. This is shown for one attempt first, and then for all of them by
induction on their greatest number.
-/

namespace TermPilot.Wait

open Surroundings (follows_log follows_now follows_pure follows_settle follows_sleep follows_throw)

variable {α β : Type}

/-! ## Attempts -/

/-- An attempt that failed: the sample that was not accepted and the time that was read after it. -/
structure Attempt (β : Type) where
  sample : β
  time : Float

section Polling

variable (view : β → α) (accept : α → Except Fault Bool) (start timeout interval : Float)

/-- The attempt failed, and not too late. -/
structure Attempt.FailsInTime (a : Attempt β) : Prop where
  refused : accept (view a.sample) = .ok false
  inTime : ¬ a.time - start > timeout

/-- What happens in an attempt that fails in time. -/
def Attempt.events (a : Attempt β) : List (Event β) :=
  [.sampled a.sample, .read a.time, .slept interval]

/-- What happens in the attempt that ends the polling, and what the polling then gives. -/
inductive LastAttempt : List (Event β) → Except Fault (PollResult α) → Prop
  | satisfied (sample : β) (h : accept (view sample) = .ok true) :
    LastAttempt [.sampled sample] (.ok (.satisfied (view sample)))
  | timedOut (sample : β) (time : Float) (h : accept (view sample) = .ok false)
    (hover : time - start > timeout) :
    LastAttempt [.sampled sample, .read time] (.ok (.timedOut (time - start) (view sample)))
  /-- It cannot be told whether the sample is accepted. -/
  | fault (sample : β) (fault : Fault) (h : accept (view sample) = .error fault) :
    LastAttempt [.sampled sample] (.error fault)

/-- The samples of a wait are those of its attempts that fail in time and those of its end. -/
theorem samples_wait (failed : List (Attempt β)) (rest : List (Event β)) :
    samples (.read start :: (failed.flatMap (Attempt.events interval) ++ rest)) =
      failed.map Attempt.sample ++ samples rest := by
  have hfailed : samples (failed.flatMap (Attempt.events interval)) = failed.map Attempt.sample := by
    rw [samples, List.filterMap_flatMap, List.map_eq_flatMap]
    rfl
  rw [← hfailed]
  exact List.filterMap_append

/-- A wait sleeps once in each attempt that fails in time. -/
theorem sleeps_wait (failed : List (Attempt β)) (rest : List (Event β)) :
    sleeps (.read start :: (failed.flatMap (Attempt.events interval) ++ rest)) =
      List.replicate failed.length interval ++ sleeps rest := by
  have hfailed : sleeps (failed.flatMap (Attempt.events interval)) =
      List.replicate failed.length interval := by
    rw [sleeps, List.filterMap_flatMap, ← List.map_const', List.map_eq_flatMap]
    rfl
  rw [← hfailed]
  exact List.filterMap_append

variable {s : Surroundings β} {act : Act Fault (List (Event β)) α} {view}

/-- An attempt fails in time, and then the polling goes on with the attempts that are left, or it is
the last one. -/
theorem run_pollFrom_succ (hact : s.IsSample act view) (past : List (Event β)) :
    (∃ a : Attempt β, a.FailsInTime view accept start timeout ∧ ∀ n,
      (pollFrom s.bench act accept start timeout interval (n + 1)).run.run past =
        (pollFrom s.bench act accept start timeout interval n).run.run
          (past ++ a.events interval)) ∨
    ∃ new result, LastAttempt view accept start timeout new result ∧ ∀ n,
      (pollFrom s.bench act accept start timeout interval (n + 1)).run.run past =
        (result, past ++ new) := by
  obtain ⟨sample, hsample⟩ : ∃ sample,
      act.run.run past = (.ok (view sample), past ++ [.sampled sample]) := ⟨_, hact past⟩
  obtain ⟨time, hclock⟩ : ∃ time, s.bench.now.run.run (past ++ [.sampled sample]) =
      (.ok time, past ++ [.sampled sample] ++ [.read time]) := ⟨_, s.run_now _⟩
  cases haccept : accept (view sample) with
  | error fault =>
    refine Or.inr ⟨_, _, .fault sample fault haccept, fun n => ?_⟩
    rw [pollFrom, Act.run_bind_of_ok hsample, haccept]
    rfl
  | ok accepted =>
    have hsettle : (Act.settle (.ok accepted) : Act Fault _ Bool).run.run
        (past ++ [Event.sampled sample]) = (.ok accepted, past ++ [.sampled sample]) := rfl
    cases accepted with
    | true =>
      refine Or.inr ⟨_, _, .satisfied sample haccept, fun n => ?_⟩
      rw [pollFrom, Act.run_bind_of_ok hsample, haccept, Act.run_bind_of_ok hsettle]
      rfl
    | false =>
      have hattempt (n : Nat) :
          (pollFrom s.bench act accept start timeout interval (n + 1)).run.run past =
            (if time - start > timeout then
              return .timedOut (time - start) (view sample)
            else do
              s.bench.sleep interval
              pollFrom s.bench act accept start timeout interval n : Act Fault _ _).run.run
                (past ++ [.sampled sample] ++ [.read time]) := by
        rw [pollFrom, Act.run_bind_of_ok hsample, haccept, Act.run_bind_of_ok hsettle,
          if_neg Bool.false_ne_true, Act.run_bind_of_ok hclock]
      by_cases hover : time - start > timeout
      · refine Or.inr ⟨_, _, .timedOut sample time haccept hover, fun n => ?_⟩
        rw [hattempt, if_pos hover, List.append_assoc]
        rfl
      · refine Or.inl ⟨⟨sample, time⟩, ⟨haccept, hover⟩, fun n => ?_⟩
        rw [hattempt, if_neg hover, Act.run_bind_of_ok (s.run_sleep interval _), List.append_assoc,
          List.append_assoc]
        rfl

/-- All attempts fail in time, or those do that come before a last one. -/
theorem run_pollFrom (hact : s.IsSample act view) (n : Nat) (past : List (Event β)) :
    ∃ failed : List (Attempt β), (∀ a ∈ failed, a.FailsInTime view accept start timeout) ∧
      ((failed.length = n ∧
          (pollFrom s.bench act accept start timeout interval n).run.run past =
            (.ok .exhausted, past ++ failed.flatMap (Attempt.events interval))) ∨
        ∃ new result, LastAttempt view accept start timeout new result ∧
          (pollFrom s.bench act accept start timeout interval n).run.run past =
            (result, past ++ (failed.flatMap (Attempt.events interval) ++ new))) := by
  -- a failed attempt comes in front of those that the rest of the polling makes
  induction n generalizing past with
  | zero =>
    refine ⟨[], by simp, Or.inl ⟨rfl, ?_⟩⟩
    rw [List.flatMap_nil, List.append_nil]
    rfl
  | succ n ih =>
    rcases run_pollFrom_succ accept start timeout interval hact past with
      ⟨a, ha, hnext⟩ | ⟨new, result, hlast, hrun⟩
    · obtain ⟨failed, hfailed, hend⟩ := ih (past ++ a.events interval)
      refine ⟨a :: failed, List.forall_mem_cons.mpr ⟨ha, hfailed⟩, ?_⟩
      rw [hnext, List.flatMap_cons]
      rcases hend with ⟨hlength, hrun⟩ | ⟨new, result, hlast, hrun⟩
      · refine Or.inl ⟨congrArg (· + 1) hlength, ?_⟩
        rw [hrun, List.append_assoc]
      · refine Or.inr ⟨new, result, hlast, ?_⟩
        rw [hrun, List.append_assoc, List.append_assoc]
    · exact ⟨[], by simp, Or.inr ⟨new, result, hlast, hrun n⟩⟩

theorem follows_pollFrom (hact : s.IsSample act view) (n : Nat) :
    s.Follows (pollFrom s.bench act accept start timeout interval n) := by
  induction n with
  | zero => exact follows_pure _
  | succ n ih =>
    rw [pollFrom]
    refine hact.follows.bind fun current => (follows_settle _).bind fun accepted => ?_
    split
    · exact follows_pure _
    · refine follows_now.bind fun time => ?_
      dsimp only
      split
      · exact follows_pure _
      · exact (follows_sleep interval).bind fun _ => ih

end Polling

/-! ## Waits -/

section Waiting

variable (view : β → α) (accept : α → Except Fault Bool) (describe : α → Text × Option Text)
  (bounds : WaitBounds)

/-- What happens during a wait, and how the wait ends. The clock is read, some attempts fail in
time, and then: -/
inductive IsWait : List (Event β) → Except Fault (Except (WaitTimeout α) α) → Prop
  /-- A sample is accepted, which is the sample of the wait. -/
  | returned (start : Float) (failed : List (Attempt β)) (last : β)
    (hfailed : ∀ a ∈ failed, a.FailsInTime view accept start bounds.timeout)
    (hlast : accept (view last) = .ok true) :
    IsWait (.read start :: (failed.flatMap (Attempt.events bounds.interval) ++ [.sampled last]))
      (.ok (.ok (view last)))
  /-- A sample is not accepted and the time is over, which the log and the timeout tell. -/
  | timedOut (start : Float) (failed : List (Attempt β)) (last : β) (time : Float)
    (hfailed : ∀ a ∈ failed, a.FailsInTime view accept start bounds.timeout)
    (hlast : accept (view last) = .ok false) (hover : time - start > bounds.timeout) :
    IsWait
      (.read start :: (failed.flatMap (Attempt.events bounds.interval) ++
        [.sampled last, .read time, .logged (timedOutRecord (time - start) bounds.timeout)]))
      (.ok (.error
        { elapsed := time - start
          timeout := bounds.timeout
          lastRaw := (describe (view last)).1
          lastClean := (describe (view last)).2
          lastSample := view last }))
  /-- It cannot be told whether a sample is accepted. -/
  | fault (start : Float) (failed : List (Attempt β)) (last : β) (fault : Fault)
    (hfailed : ∀ a ∈ failed, a.FailsInTime view accept start bounds.timeout)
    (hlast : accept (view last) = .error fault) :
    IsWait (.read start :: (failed.flatMap (Attempt.events bounds.interval) ++ [.sampled last]))
      (.error fault)
  /-- There are no attempts left. -/
  | exhausted (start : Float) (failed : List (Attempt β))
    (hfailed : ∀ a ∈ failed, a.FailsInTime view accept start bounds.timeout)
    (hlength : failed.length = bounds.attempts) :
    IsWait (.read start :: failed.flatMap (Attempt.events bounds.interval))
      (.error .attemptsExhausted)

variable {s : Surroundings β} {act : Act Fault (List (Event β)) α} {view}

theorem run_await (hact : s.IsSample act view) (past : List (Event β)) :
    ∃ new outcome, IsWait view accept describe bounds new outcome ∧
      (await s.bench act accept describe bounds).run.run past = (outcome, past ++ new) := by
  obtain ⟨start, hclock⟩ : ∃ start, s.bench.now.run.run past = (.ok start, past ++ [.read start]) :=
    ⟨_, s.run_now past⟩
  obtain ⟨failed, hfailed, hend⟩ := run_pollFrom accept start bounds.timeout bounds.interval hact
    bounds.attempts (past ++ [.read start])
  have hpoll : (poll s.bench act accept bounds).run.run past =
      (pollFrom s.bench act accept start bounds.timeout bounds.interval
        bounds.attempts).run.run (past ++ [.read start]) := Act.run_bind_of_ok hclock
  rcases hend with ⟨hlength, hrun⟩ | ⟨new, result, hlast, hrun⟩
  · refine ⟨_, _, .exhausted start failed hfailed hlength, ?_⟩
    rw [await, Act.run_bind_of_ok (hpoll.trans hrun), List.append_assoc]
    rfl
  · rw [List.append_assoc] at hrun
    cases hlast with
    | satisfied last h =>
      refine ⟨_, _, .returned start failed last hfailed h, ?_⟩
      rw [await, Act.run_bind_of_ok (hpoll.trans hrun)]
      rfl
    | timedOut last time h hover =>
      refine ⟨_, _, .timedOut start failed last time hfailed h hover, ?_⟩
      rw [await, Act.run_bind_of_ok (hpoll.trans hrun)]
      simp only
      rw [Act.run_bind_of_ok (s.run_log _ _)]
      simp only [List.append_assoc, List.cons_append, List.nil_append]
      rfl
    | fault last fault h =>
      refine ⟨_, _, .fault start failed last fault hfailed h, ?_⟩
      rw [await, Act.run_bind_of_error (hpoll.trans hrun)]
      rfl

theorem follows_await (hact : s.IsSample act view) :
    s.Follows (await s.bench act accept describe bounds) := by
  have hpoll : s.Follows (poll s.bench act accept bounds) :=
    follows_now.bind fun start => follows_pollFrom accept start _ _ hact _
  refine hpoll.bind fun result => ?_
  cases result with
  | satisfied current => exact follows_pure _
  | exhausted => exact follows_throw _
  | timedOut elapsed last => exact (follows_log _).bind fun _ => follows_pure _

variable {accept describe bounds} {new : List (Event β)}
  {outcome : Except Fault (Except (WaitTimeout α) α)}

/-- A wait that ends by itself takes one sample more than it sleeps. -/
theorem IsWait.sleeps_eq (h : IsWait view accept describe bounds new outcome)
    {found : Except (WaitTimeout α) α} (hfound : outcome = .ok found) :
    ∃ k, (samples new).length = k + 1 ∧ sleeps new = List.replicate k bounds.interval := by
  cases h with
  | returned start failed last hfailed hlast =>
    refine ⟨failed.length, ?_, ?_⟩
    · rw [samples_wait, List.length_append, List.length_map]
      rfl
    · rw [sleeps_wait]
      exact List.append_nil _
  | timedOut start failed last time hfailed hlast hover =>
    refine ⟨failed.length, ?_, ?_⟩
    · rw [samples_wait, List.length_append, List.length_map]
      rfl
    · rw [sleeps_wait]
      exact List.append_nil _
  | fault start failed last fault hfailed hlast => cases hfound
  | exhausted start failed hfailed hlength => cases hfound

/-- What a wait gives in any case is what its last sample gives. -/
theorem IsWait.bestEffort_eq (h : IsWait view accept describe bounds new outcome) {value : α}
    (hvalue : bestEffort <$> outcome = .ok value) :
    ∃ last, (samples new).getLast? = some last ∧ value = view last := by
  cases h with
  | returned start failed last hfailed hlast =>
    cases hvalue
    refine ⟨last, ?_, rfl⟩
    rw [samples_wait]
    exact List.getLast?_concat
  | timedOut start failed last time hfailed hlast hover =>
    cases hvalue
    refine ⟨last, ?_, rfl⟩
    rw [samples_wait]
    exact List.getLast?_concat
  | fault start failed last fault hfailed hlast => cases hvalue
  | exhausted start failed hfailed hlength => cases hvalue

end Waiting

/-- On the surroundings the act goes as a wait: it takes one sample more than it sleeps, if it ends
by itself, and where a timeout is made up for by the last sample, the same happens. -/
structure GoesAsWait (s : Surroundings β) (view : β → α) (accept : α → Except Fault Bool)
    (describe : α → Text × Option Text) (bounds : WaitBounds)
    (wait : Act Fault (List (Event β)) (Except (WaitTimeout α) α)) (past new : List (Event β))
    (outcome : Except Fault (Except (WaitTimeout α) α)) : Prop where
  /-- The wait adds to the history and ends. -/
  run : wait.run.run past = (outcome, past ++ new)
  /-- What it adds is what the surroundings give. -/
  gives : s.Gives past new
  /-- What it adds, and how it ends. -/
  isWait : IsWait view accept describe bounds new outcome
  /-- The numbers of samples and sleeps. -/
  counts : ∀ found, outcome = .ok found →
    ∃ k, (samples new).length = k + 1 ∧ sleeps new = List.replicate k bounds.interval
  /-- With the last sample for a timeout, the history is the same. -/
  run_bestEffort : (bestEffort <$> wait).run.run past = (bestEffort <$> outcome, past ++ new)
  /-- It then gives the last sample. -/
  bestEffort_last : ∀ value, bestEffort <$> outcome = .ok value →
    ∃ last, (samples new).getLast? = some last ∧ value = view last

theorem exists_goesAsWait {s : Surroundings β} {act : Act Fault (List (Event β)) α} {view : β → α}
    (hact : s.IsSample act view) (accept : α → Except Fault Bool)
    (describe : α → Text × Option Text) (bounds : WaitBounds) (past : List (Event β)) :
    ∃ new outcome, GoesAsWait s view accept describe bounds
      (await s.bench act accept describe bounds) past new outcome := by
  obtain ⟨new, outcome, hwait, hrun⟩ := run_await accept describe bounds hact past
  obtain ⟨given, hgiven, hgives⟩ := follows_await accept describe bounds hact past
  rw [hrun] at hgiven
  obtain rfl : new = given := List.append_cancel_left hgiven
  have hmap := Act.run_map bestEffort (await s.bench act accept describe bounds) past
  rw [hrun] at hmap
  exact ⟨new, outcome, hrun, hgives, hwait, fun _ => hwait.sleeps_eq, hmap,
    fun _ => hwait.bestEffort_eq⟩

/-- Whatever the clock shows and whatever samples there are, a wait gives the first sample that is
accepted, or, once the time is over, a timeout that tells of the last one. This is so for a wait for
any samples, for the raw screen, and for the raw screen together with its visible text. -/
theorem waits (bounds : WaitBounds) :
    (∀ (α : Type) (s : Surroundings α) (accept : α → Except Fault Bool)
      (describe : α → Text × Option Text) (past : List (Event α)), ∃ new outcome,
        GoesAsWait s id accept describe bounds (await s.bench s.take accept describe bounds) past
          new outcome) ∧
    ∀ (s : Surroundings Text) (past : List (Event Text)),
      (∀ accept, ∃ new outcome, GoesAsWait s id accept (fun raw => (raw, none)) bounds
        (forRaw s.rig accept bounds) past new outcome) ∧
      ∀ accept, ∃ new outcome, GoesAsWait s Screen.withVisible accept
        (fun (raw, clean) => (raw, some clean)) bounds (forScreen s.rig accept bounds) past new
          outcome := by
  refine ⟨fun α s accept describe => ?_, fun s past => ⟨fun accept => ?_, fun accept => ?_⟩⟩
  · exact exists_goesAsWait s.isSample_take accept describe bounds
  · exact exists_goesAsWait s.isSample_capture accept _ bounds past
  · exact exists_goesAsWait s.isSample_captureScreen accept _ bounds past

end TermPilot.Wait
