import Mathlib.Data.Nat.Find
import TermPilot.Proofs.Kitty.Calls

/-!
# Finding the window that was started

A window that was started is looked for by having kitty list its windows, up to a number of times.
An answer that shows no window, be it no listing at all, only means that the window is not ready
yet. This does not hold of every answer: two kinds of documents end the search with an error that
nobody expects.
-/

namespace TermPilot.Kitty

/-! ## Answers of an attempt -/

/-- The result of having the windows listed ends a search with a fault: the output is nested too
deeply, or it has something without members where an operating system window or a tab belongs. -/
inductive Escapes (depth : Nat) (result : ProgramResult) : Fault → Prop where
  | tooDeep : result.status = 0 → Json.readBytes result.output depth = .error .tooDeep →
      Escapes depth result .tooDeep
  | stray {listing : Json} : result.status = 0 →
      Json.readBytes result.output depth = .ok listing → HasStray listing →
        Escapes depth result (.listing .notAnObject)

/-- The result of having the windows listed only says that no window is ready. -/
def Waits (depth : Nat) (result : ProgramResult) : Prop :=
  (∀ ids, ¬ Shows depth result ids) ∧ ∀ fault, ¬ Escapes depth result fault

section Answers

variable {depth : Nat} {result : ProgramResult} {ids : List Json} {fault : Fault}

theorem found_of_shows (h : Shows depth result ids) : found depth result = .ok ids := by
  obtain ⟨listing, hread, hlisting⟩ := h.listing
  rw [found, if_pos (succeeded_iff.mpr h.status), listed, hread]
  dsimp only
  rw [windowIds_eq_ok_iff.mpr hlisting]

theorem found_of_escapes (h : Escapes depth result fault) : found depth result = .error fault := by
  cases h with
  | tooDeep hstatus hread => rw [found, if_pos (succeeded_iff.mpr hstatus), listed, hread]
  | stray hstatus hread hstray =>
    rw [found, if_pos (succeeded_iff.mpr hstatus), listed, hread]
    dsimp only
    rw [windowIds_eq_error_iff.mpr hstray]

theorem found_of_waits (h : Waits depth result) : found depth result = .ok [] := by
  rw [found]
  split
  case isFalse => rfl
  case isTrue hsucceeded =>
    have hstatus := succeeded_iff.mp hsucceeded
    unfold listed
    split
    · next hread => exact absurd (.tooDeep hstatus hread) (h.2 .tooDeep)
    · rfl
    · next listing hread =>
      split
      · next hids => exact absurd (.stray hstatus hread (windowIds_eq_error_iff.mp hids)) (h.2 _)
      · rfl
      · next ids hids =>
        rw [Except.ok.injEq]
        by_contra hne
        exact h.1 ids ⟨hstatus, ⟨listing, hread, windowIds_eq_ok_iff.mp hids⟩, hne⟩

end Answers

/-! ## Searches -/

/-- What happens in so many attempts that find nothing. -/
def failedAttempts (address : Text) (k : Nat) : List Event :=
  (List.replicate k [.ran (listCall address), .slept discoveryPause]).flatten

/-- How a search should end and what should happen in it, by the answers: it gives the first window
of the first answer that shows any, or fails if no answer does. -/
inductive IsSearch (depth : Nat) (answers : Nat → ProgramResult) (address : Text) :
    Except Fault Json → List Event → Prop where
  | found {k : Nat} {id : Json} {ids : List Json} : k < discoveryAttempts →
      (∀ j < k, ∀ ids, ¬ Shows depth (answers j) ids) → Shows depth (answers k) (id :: ids) →
        IsSearch depth answers address (.ok id)
          (failedAttempts address k ++ [.ran (listCall address)])
  | lost : (∀ j < discoveryAttempts, ∀ ids, ¬ Shows depth (answers j) ids) →
      IsSearch depth answers address (.error (.kitty (.notReachable address)))
        (failedAttempts address discoveryAttempts)

theorem exists_first_lt {p : Nat → Prop} {n : Nat} (h : ∃ k < n, p k) :
    ∃ k < n, p k ∧ ∀ j < k, ¬ p j := by
  classical
  obtain ⟨k, hk, hpk⟩ := h
  have hex : ∃ k, p k := ⟨k, hpk⟩
  have hle : Nat.find hex ≤ k := Nat.find_min' hex hpk
  exact ⟨Nat.find hex, hle.trans_lt hk, Nat.find_spec hex, fun _ hj => Nat.find_min hex hj⟩

section Search

variable {results : Nat → ProgramResult} {depth : Nat} {raised : Fault → Option Fault}
  {address : Text} {past : List Event}

theorem length_calls_failedAttempts (k : Nat) :
    (calls (failedAttempts address k)).length = k := by
  induction k with
  | zero => rfl
  | succ k ih =>
    rw [failedAttempts, List.replicate_succ, List.flatten_cons, calls_append, List.length_append]
    exact (congrArg (1 + ·) ih).trans (Nat.add_comm 1 k)

theorem run_discover_of_found {attempts : Nat} {id : Json} {ids : List Json}
    (h : found depth (upcoming results past 0) = .ok (id :: ids)) :
    (discover (hostOf results depth raised) address (attempts + 1)).run.run past =
      (.ok id, past ++ [.ran (listCall address)]) := by
  rw [discover, Act.run_bind_of_ok (run_remote address _), depth_hostOf, h]
  rfl

theorem run_discover_of_error {attempts : Nat} {fault : Fault}
    (h : found depth (upcoming results past 0) = .error fault) :
    (discover (hostOf results depth raised) address (attempts + 1)).run.run past =
      (.error fault, past ++ [.ran (listCall address)]) := by
  rw [discover, Act.run_bind_of_ok (run_remote address _), depth_hostOf, h]
  rfl

theorem run_discover_of_nothing {attempts : Nat}
    (h : found depth (upcoming results past 0) = .ok []) :
    (discover (hostOf results depth raised) address (attempts + 1)).run.run past =
      (discover (hostOf results depth raised) address attempts).run.run
        (past ++ [.ran (listCall address), .slept discoveryPause]) := by
  rw [discover, Act.run_bind_of_ok (run_remote address _), depth_hostOf, h,
    Act.run_bind_of_ok (Act.run_settle _ _), Act.run_bind_of_ok (run_sleep _), List.append_assoc]
  rfl

/-- Answers that only say that no window is ready use up their attempts. -/
theorem run_discover_of_waits {k : Nat} (attempts : Nat)
    (h : ∀ j < k, Waits depth (upcoming results past j)) :
    (discover (hostOf results depth raised) address (k + attempts)).run.run past =
      (discover (hostOf results depth raised) address attempts).run.run
        (past ++ failedAttempts address k) := by
  induction k generalizing past with
  | zero =>
    rw [Nat.zero_add, failedAttempts, List.replicate_zero, List.flatten_nil, List.append_nil]
  | succ k ih =>
    -- A failed attempt is one call, so the answers after it come one place later.
    have hlater : ∀ j < k, Waits depth (upcoming results
        (past ++ [.ran (listCall address), .slept discoveryPause]) j) := by
      intro j hj
      rw [upcoming_append, Nat.add_comm]
      exact h (j + 1) (Nat.succ_lt_succ hj)
    rw [Nat.add_right_comm, run_discover_of_nothing (found_of_waits (h 0 k.succ_pos)), ih hlater,
      List.append_assoc]
    rfl

theorem run_discover_of_waits_then {k : Nat} (hk : k < discoveryAttempts)
    (h : ∀ j < k, Waits depth (upcoming results past j)) :
    ∃ attempts, (discover (hostOf results depth raised) address discoveryAttempts).run.run past =
        (discover (hostOf results depth raised) address (attempts + 1)).run.run
          (past ++ failedAttempts address k) ∧
      upcoming results (past ++ failedAttempts address k) 0 = upcoming results past k := by
  obtain ⟨attempts, hattempts⟩ := Nat.exists_eq_add_of_lt hk
  refine ⟨attempts, ?_, ?_⟩
  · rw [hattempts, Nat.add_assoc]
    exact run_discover_of_waits (attempts + 1) h
  · rw [upcoming_append, length_calls_failedAttempts, Nat.add_zero]

theorem run_discover_of_escapes {k : Nat} {fault : Fault} (hk : k < discoveryAttempts)
    (hbefore : ∀ j < k, Waits depth (upcoming results past j))
    (h : Escapes depth (upcoming results past k) fault) :
    (discover (hostOf results depth raised) address discoveryAttempts).run.run past =
      (.error fault, past ++ (failedAttempts address k ++ [.ran (listCall address)])) := by
  obtain ⟨attempts, hrun, hnext⟩ := run_discover_of_waits_then hk hbefore
  rw [hrun, run_discover_of_error (hnext ▸ found_of_escapes h), List.append_assoc]

theorem run_discover_of_shows {k : Nat} {id : Json} {ids : List Json} (hk : k < discoveryAttempts)
    (hbefore : ∀ j < k, Waits depth (upcoming results past j))
    (h : Shows depth (upcoming results past k) (id :: ids)) :
    (discover (hostOf results depth raised) address discoveryAttempts).run.run past =
      (.ok id, past ++ (failedAttempts address k ++ [.ran (listCall address)])) := by
  obtain ⟨attempts, hrun, hnext⟩ := run_discover_of_waits_then hk hbefore
  rw [hrun, run_discover_of_found (hnext ▸ found_of_shows h), List.append_assoc]

theorem run_discover_of_all_wait
    (h : ∀ j < discoveryAttempts, Waits depth (upcoming results past j)) :
    (discover (hostOf results depth raised) address discoveryAttempts).run.run past =
      (.error (.kitty (.notReachable address)),
        past ++ failedAttempts address discoveryAttempts) :=
  run_discover_of_waits 0 h

end Search

/-- A search ends as it should, whatever the answers are, exactly if no answer up to the first that
shows a window is an escape. -/
theorem discover_isSearch_iff (results : Nat → ProgramResult) (depth : Nat)
    (raised : Fault → Option Fault) (address : Text) (past : List Event) :
    (∃ outcome new, IsSearch depth (upcoming results past) address outcome new ∧
      (discover (hostOf results depth raised) address discoveryAttempts).run.run past =
        (outcome, past ++ new)) ↔
    ∀ k < discoveryAttempts, (∀ j < k, ∀ ids, ¬ Shows depth (upcoming results past j) ids) →
      ∀ fault, ¬ Escapes depth (upcoming results past k) fault := by
  constructor
  · rintro ⟨outcome, new, hsearch, hrun⟩ k hk hbefore fault hescapes
    -- Some answer up to this one is the first to escape, and all before it wait.
    obtain ⟨first, hfirst, ⟨error, herror⟩, hearlier⟩ :=
      exists_first_lt (p := fun j => ∃ fault, Escapes depth (upcoming results past j) fault)
        ⟨k, k.lt_succ_self, fault, hescapes⟩
    have hle : first ≤ k := Nat.le_of_lt_succ hfirst
    have hwaits : ∀ j < first, Waits depth (upcoming results past j) := by
      intro j hj
      exact ⟨hbefore j (hj.trans_le hle), not_exists.mp (hearlier j hj)⟩
    rw [run_discover_of_escapes (hle.trans_lt hk) hwaits herror] at hrun
    obtain rfl : .error error = outcome := congrArg Prod.fst hrun
    -- The only fault that a search should end with is none of an escape.
    cases hsearch
    cases herror
  · intro hescapes
    by_cases hshown : ∃ k < discoveryAttempts, ∃ ids, Shows depth (upcoming results past k) ids
    · obtain ⟨k, hk, ⟨ids, hids⟩, hearlier⟩ := exists_first_lt hshown
      have hbefore : ∀ j < k, ∀ ids, ¬ Shows depth (upcoming results past j) ids := by
        intro j hj
        exact not_exists.mp (hearlier j hj)
      have hwaits : ∀ j < k, Waits depth (upcoming results past j) := by
        intro j hj
        refine ⟨hbefore j hj, hescapes j (hj.trans hk) ?_⟩
        intro i hi
        exact hbefore i (hi.trans hj)
      obtain ⟨id, ids, rfl⟩ := List.exists_cons_of_ne_nil hids.nonempty
      exact ⟨_, _, .found hk hbefore hids, run_discover_of_shows hk hwaits hids⟩
    · have hnone : ∀ k < discoveryAttempts, ∀ ids, ¬ Shows depth (upcoming results past k) ids := by
        intro k hk ids hids
        exact hshown ⟨k, hk, ids, hids⟩
      have hwaits : ∀ j < discoveryAttempts, Waits depth (upcoming results past j) := by
        intro j hj
        refine ⟨hnone j hj, hescapes j hj ?_⟩
        intro i hi
        exact hnone i (hi.trans hj)
      exact ⟨_, _, .lost hnone, run_discover_of_all_wait hwaits⟩

/-- Results of which the first is a listing with a number in it. -/
def numberFirst : Nat → ProgramResult
  -- The bytes of a sequence that holds the number one.
  | 0 => { output := [0x5B, 0x31, 0x5D] }
  | _ => {}

/-- Some searches do not end as they should: a number in a listing is no reason to wait. -/
theorem discover_not_isSearch : ¬ ∀ results depth raised address past, ∃ outcome new,
    IsSearch depth (upcoming results past) address outcome new ∧
      (discover (hostOf results depth raised) address discoveryAttempts).run.run past =
        (outcome, past ++ new) := by
  intro h
  obtain ⟨outcome, new, hsearch, hrun⟩ := h numberFirst Json.usualDepth (fun _ => none) [] []
  have hfault : ((discover (hostOf numberFirst Json.usualDepth fun _ => none) []
      discoveryAttempts).run.run []).1 = .error (.listing .notAnObject) := rfl
  rw [hrun] at hfault
  cases hsearch <;> cases hfault

end TermPilot.Kitty
