import TermPilot.Proofs.Number.Difference
import TermPilot.Proofs.Wait.Surroundings
import TermPilot.Wait.Sampling

/-!
# What rapid sampling covers

Rapid sampling goes in rounds. A round reads the clock and takes a sample, unless the reading is
beyond the window, which ends the sampling. So the samples are those of the rounds before the first
reading that is too late, each with the reading in front of it. This is shown for one round first,
and then for all of them by induction on their greatest number.
-/

namespace TermPilot.Wait

open Surroundings (follows_now follows_pure follows_throw)

variable {α β : Type}

/-! ## Rounds -/

/-- A round of the sampling: the time that was read and the sample that was taken then. -/
structure Round (β : Type) where
  time : Float
  sample : β

/-- What happens in a round. -/
def Round.events (r : Round β) : List (Event β) := [.read r.time, .sampled r.sample]

/-- What a round gives. -/
def Round.timed (view : β → α) (start : Float) (r : Round β) : Float × α :=
  (r.time - start, view r.sample)

section Rounds

variable {s : Surroundings β} {act : Act Fault (List (Event β)) α} {view : β → α}
  (start window : Float)

/-- A round takes a sample, which comes in front of those of later rounds, or it is over. -/
theorem run_sampleFrom_succ (hact : s.IsSample act view) (past : List (Event β)) :
    (∃ r : Round β, ¬ r.time - start > window ∧ ∀ n,
      (sampleFrom s.bench act start window (n + 1)).run.run past =
        ((r.timed view start :: ·) <$> sampleFrom s.bench act start window n).run.run
          (past ++ r.events)) ∨
    ∃ last, last - start > window ∧ ∀ n,
      (sampleFrom s.bench act start window (n + 1)).run.run past =
        (.ok [], past ++ [.read last]) := by
  obtain ⟨time, hclock⟩ : ∃ time, s.bench.now.run.run past = (.ok time, past ++ [.read time]) :=
    ⟨_, s.run_now past⟩
  by_cases hover : time - start > window
  · refine Or.inr ⟨time, hover, fun n => ?_⟩
    rw [sampleFrom, Act.run_bind_of_ok hclock]
    dsimp only
    rw [if_pos hover]
    rfl
  · obtain ⟨sample, hsample⟩ : ∃ sample, act.run.run (past ++ [.read time]) =
        (.ok (view sample), past ++ [.read time] ++ [.sampled sample]) := ⟨_, hact _⟩
    refine Or.inl ⟨⟨time, sample⟩, hover, fun n => ?_⟩
    rw [sampleFrom, Act.run_bind_of_ok hclock]
    dsimp only
    rw [if_neg hover, Act.run_bind_of_ok hsample, List.append_assoc]
    rfl

/-- All rounds are within the window, or those are that come before a reading beyond it. -/
theorem run_sampleFrom (hact : s.IsSample act view) (n : Nat) (past : List (Event β)) :
    ∃ rounds : List (Round β), (∀ r ∈ rounds, ¬ r.time - start > window) ∧
      ((rounds.length = n ∧ (sampleFrom s.bench act start window n).run.run past =
          (.error .attemptsExhausted, past ++ rounds.flatMap Round.events)) ∨
        ∃ last, rounds.length < n ∧ last - start > window ∧
          (sampleFrom s.bench act start window n).run.run past =
            (.ok (rounds.map (Round.timed view start)),
              past ++ (rounds.flatMap Round.events ++ [.read last]))) := by
  induction n generalizing past with
  | zero =>
    refine ⟨[], by simp, Or.inl ⟨rfl, ?_⟩⟩
    rw [List.flatMap_nil, List.append_nil]
    rfl
  | succ n ih =>
    rcases run_sampleFrom_succ start window hact past with ⟨r, hr, hnext⟩ | ⟨last, hlast, hrun⟩
    · obtain ⟨rounds, hrounds, hend⟩ := ih (past ++ r.events)
      refine ⟨r :: rounds, List.forall_mem_cons.mpr ⟨hr, hrounds⟩, ?_⟩
      rw [hnext, Act.run_map, List.flatMap_cons]
      rcases hend with ⟨hlength, hrun⟩ | ⟨last, hlength, hlast, hrun⟩
      · refine Or.inl ⟨congrArg (· + 1) hlength, ?_⟩
        rw [hrun, List.append_assoc]
        rfl
      · refine Or.inr ⟨last, Nat.succ_lt_succ hlength, hlast, ?_⟩
        rw [hrun, List.append_assoc, List.append_assoc]
        rfl
    · exact ⟨[], by simp, Or.inr ⟨last, Nat.succ_pos n, hlast, hrun n⟩⟩

/-- Sampling that ends by itself ends alike with more rounds. -/
theorem run_sampleFrom_of_le (hact : s.IsSample act view) {n more : Nat} (hmore : n ≤ more)
    (past : List (Event β))
    (hne : ((sampleFrom s.bench act start window n).run.run past).1 ≠ .error .attemptsExhausted) :
    (sampleFrom s.bench act start window more).run.run past =
      (sampleFrom s.bench act start window n).run.run past := by
  induction n generalizing more past with
  | zero => exact absurd rfl hne
  | succ n ih =>
    obtain ⟨more, rfl⟩ : ∃ fewer, more = fewer + 1 := Nat.exists_eq_succ_of_ne_zero (by omega)
    rcases run_sampleFrom_succ start window hact past with ⟨r, -, hnext⟩ | ⟨last, -, hrun⟩
    · rw [hnext, Act.run_map] at hne
      rw [hnext, hnext, Act.run_map, Act.run_map,
        ih (Nat.le_of_succ_le_succ hmore) _ fun hlater => hne (by rw [hlater]; rfl)]
    · rw [hrun, hrun]

theorem follows_sampleFrom (hact : s.IsSample act view) (n : Nat) :
    s.Follows (sampleFrom s.bench act start window n) := by
  induction n with
  | zero => exact follows_throw _
  | succ n ih =>
    rw [sampleFrom]
    refine follows_now.bind fun time => ?_
    dsimp only
    split
    · exact follows_pure _
    · exact hact.follows.bind fun current => ih.bind fun later => follows_pure _

end Rounds

/-! ## Samplings -/

section Sampling

variable (view : β → α) (window : Float) (limit : Nat)

/-- What happens during a sampling, and how it ends. The clock is read, there are rounds within the
window, and then: -/
inductive IsSampling : List (Event β) → Except Fault (List (Float × α)) → Prop
  /-- A reading is beyond the window, which ends the sampling. -/
  | returned (start : Float) (rounds : List (Round β)) (last : Float)
    (hwithin : ∀ r ∈ rounds, ¬ r.time - start > window) (hover : last - start > window)
    (hlength : rounds.length < limit) :
    IsSampling (.read start :: (rounds.flatMap Round.events ++ [.read last]))
      (.ok (rounds.map (Round.timed view start)))
  /-- There are no rounds left. -/
  | exhausted (start : Float) (rounds : List (Round β))
    (hwithin : ∀ r ∈ rounds, ¬ r.time - start > window) (hlength : rounds.length = limit) :
    IsSampling (.read start :: rounds.flatMap Round.events) (.error .attemptsExhausted)

variable {view} {s : Surroundings β} {act : Act Fault (List (Event β)) α}

theorem run_sampleRapidly (hact : s.IsSample act view) (past : List (Event β)) :
    ∃ new outcome, IsSampling view window limit new outcome ∧
      (sampleRapidly s.bench act window limit).run.run past = (outcome, past ++ new) := by
  obtain ⟨start, hclock⟩ : ∃ start, s.bench.now.run.run past = (.ok start, past ++ [.read start]) :=
    ⟨_, s.run_now past⟩
  obtain ⟨rounds, hrounds, hend⟩ := run_sampleFrom start window hact limit (past ++ [.read start])
  rw [sampleRapidly, Act.run_bind_of_ok hclock]
  rcases hend with ⟨hlength, hrun⟩ | ⟨last, hlength, hlast, hrun⟩
  · refine ⟨_, _, .exhausted start rounds hrounds hlength, ?_⟩
    rw [hrun, List.append_assoc]
    rfl
  · refine ⟨_, _, .returned start rounds last hrounds hlast hlength, ?_⟩
    rw [hrun, List.append_assoc]
    rfl

/-- The greatest number of rounds does not matter for a sampling that does not use it up. -/
theorem run_sampleRapidly_of_le (hact : s.IsSample act view) {limit more : Nat}
    (hmore : limit ≤ more) (past : List (Event β))
    (hne : ((sampleRapidly s.bench act window limit).run.run past).1 ≠
      .error .attemptsExhausted) :
    (sampleRapidly s.bench act window more).run.run past =
      (sampleRapidly s.bench act window limit).run.run past := by
  have hclock := s.run_now past
  rw [sampleRapidly, Act.run_bind_of_ok hclock] at hne
  rw [sampleRapidly, sampleRapidly, Act.run_bind_of_ok hclock, Act.run_bind_of_ok hclock]
  exact run_sampleFrom_of_le _ window hact hmore _ hne

theorem follows_sampleRapidly (hact : s.IsSample act view) :
    s.Follows (sampleRapidly s.bench act window limit) :=
  follows_now.bind fun start => follows_sampleFrom start window hact limit

end Sampling

/-! ## The window -/

section Window

/-- The times from the first reading to each later one. -/
def offsets (history : List (Event β)) : List Float :=
  match readings history with
  | [] => []
  | start :: later => later.map (· - start)

/-- No time comes before an earlier one in the list. -/
def NeverFalls (times : List Float) : Prop := times.Pairwise fun earlier later => ¬ later < earlier

theorem samples_rounds (start : Float) (rounds : List (Round β)) (rest : List (Event β)) :
    samples (.read start :: (rounds.flatMap Round.events ++ rest)) =
      rounds.map Round.sample ++ samples rest := by
  have hrounds : samples (rounds.flatMap Round.events) = rounds.map Round.sample := by
    rw [samples, List.filterMap_flatMap, List.map_eq_flatMap]
    rfl
  rw [← hrounds]
  exact List.filterMap_append

theorem readings_rounds (start : Float) (rounds : List (Round β)) (rest : List (Event β)) :
    readings (.read start :: (rounds.flatMap Round.events ++ rest)) =
      start :: (rounds.map Round.time ++ readings rest) := by
  have hrounds : readings (rounds.flatMap Round.events) = rounds.map Round.time := by
    rw [readings, List.filterMap_flatMap, List.map_eq_flatMap]
    rfl
  rw [← hrounds]
  exact congrArg (start :: ·) List.filterMap_append

/-- The samples of a history cover the window: they are those before the first offset beyond it,
each with the offset in front of it. -/
structure Covers (view : β → α) (window : Float) (history : List (Event β))
    (result : List (Float × α)) : Prop where
  length_samples : (samples history).length = result.length
  length_readings : (readings history).length = result.length + 2
  eq_zip : result = (offsets history).zip ((samples history).map view)
  /-- The offset behind those of the result is beyond the window. -/
  beyond : ∃ offset, (offsets history)[result.length]? = some offset ∧ offset > window
  /-- None is that comes earlier. -/
  within : ∀ offset ∈ (offsets history).take result.length, ¬ offset > window
  not_beyond : ∀ timed ∈ result, ¬ timed.1 > window
  neverFalls : NeverFalls (readings history) → NeverFalls (result.map Prod.fst)
  sorted : (∀ start ∈ (readings history).head?, start.isFinite = true) →
    (readings history).Pairwise (· ≤ ·) → (result.map Prod.fst).Pairwise (· ≤ ·)

variable {view : β → α} {window : Float} {limit : Nat} {new : List (Event β)}
  {outcome : Except Fault (List (Float × α))}

theorem pairwise_offsets {r : Float → Float → Prop} {rounds : List (Round β)} {start : Float}
    {later : List Float} (hr : ∀ x y : Float, r x y → r (x - start) (y - start))
    (h : (start :: (rounds.map Round.time ++ later)).Pairwise r) :
    ((rounds.map (Round.timed view start)).map Prod.fst).Pairwise r := by
  have htimes : (rounds.map Round.time).Pairwise r := (List.pairwise_append.mp h.of_cons).1
  rw [List.map_map]
  exact List.pairwise_map.mpr ((List.pairwise_map.mp htimes).imp (hr _ _))

/-- A sampling that ends by itself covers the window. -/
theorem IsSampling.covers (h : IsSampling view window limit new outcome)
    {result : List (Float × α)} (hresult : outcome = .ok result) :
    Covers view window new result := by
  cases h with
  | exhausted start rounds hwithin hlength => cases hresult
  | returned start rounds last hwithin hover hlength =>
    cases hresult
    have hreadings : readings (.read start :: (rounds.flatMap Round.events ++ [.read last])) =
        start :: (rounds.map Round.time ++ [last]) := readings_rounds start rounds [.read last]
    have hsamples : samples (.read start :: (rounds.flatMap Round.events ++ [.read last])) =
        rounds.map Round.sample :=
      (samples_rounds start rounds [.read last]).trans (List.append_nil _)
    have hoffsets : offsets (.read start :: (rounds.flatMap Round.events ++ [.read last])) =
        rounds.map (fun r => r.time - start) ++ [last - start] := by
      rw [offsets, hreadings]
      dsimp only
      rw [List.map_append, List.map_map]
      rfl
    have hlength : (rounds.map (Round.timed view start)).length =
        (rounds.map fun r => r.time - start).length := by
      rw [List.length_map, List.length_map]
    constructor
    case length_samples => rw [hsamples, List.length_map, List.length_map]
    case length_readings =>
      rw [hreadings, List.length_cons, List.length_append, List.length_map, List.length_map]
      rfl
    case eq_zip =>
      rw [hoffsets, hsamples, List.map_map, ← List.append_nil (rounds.map (view ∘ Round.sample)),
        List.zip_append (by rw [List.length_map, List.length_map]), List.zip_map']
      exact (List.append_nil _).symm
    case beyond =>
      refine ⟨last - start, ?_, hover⟩
      rw [hoffsets, hlength, List.getElem?_concat_length]
    case within =>
      intro offset hoffset
      rw [hoffsets, hlength, List.take_left] at hoffset
      obtain ⟨r, hr, rfl⟩ := List.mem_map.mp hoffset
      exact hwithin r hr
    case not_beyond =>
      intro timed htimed
      obtain ⟨r, hr, rfl⟩ := List.mem_map.mp htimed
      exact hwithin r hr
    case neverFalls =>
      rw [hreadings]
      exact pairwise_offsets fun _ _ h => Double.not_sub_lt_sub h start
    case sorted =>
      rw [hreadings]
      intro hfinite
      exact pairwise_offsets fun _ _ h => Double.sub_le_sub h (hfinite start rfl)

end Window

/-- On the surroundings the act goes as a sampling, and if it ends by itself, then what it gives
covers the window. -/
structure GoesAsSampling (s : Surroundings β) (view : β → α) (window : Float)
    (sampling : Nat → Act Fault (List (Event β)) (List (Float × α))) (limit : Nat)
    (past new : List (Event β)) (outcome : Except Fault (List (Float × α))) : Prop where
  /-- The sampling adds to the history and ends. -/
  run : (sampling limit).run.run past = (outcome, past ++ new)
  /-- What it adds is what the surroundings give. -/
  gives : s.Gives past new
  /-- What it adds, and how it ends. -/
  isSampling : IsSampling view window limit new outcome
  /-- If it ends by itself, then with the samples of the window. -/
  covers : ∀ result, outcome = .ok result → Covers view window new result
  /-- It then does the same with more rounds. -/
  run_of_le : ∀ result, outcome = .ok result → ∀ more ≥ limit,
    (sampling more).run.run past = (outcome, past ++ new)

theorem exists_goesAsSampling {s : Surroundings β} {act : Act Fault (List (Event β)) α}
    {view : β → α} (hact : s.IsSample act view) (window : Float) (limit : Nat)
    (past : List (Event β)) :
    ∃ new outcome, GoesAsSampling s view window
      (fun limit => sampleRapidly s.bench act window limit) limit past new outcome := by
  obtain ⟨new, outcome, hsampling, hrun⟩ := run_sampleRapidly window limit hact past
  obtain ⟨given, hgiven, hgives⟩ := follows_sampleRapidly window limit hact past
  rw [hrun] at hgiven
  obtain rfl : new = given := List.append_cancel_left hgiven
  refine ⟨new, outcome, hrun, hgives, hsampling, fun _ => hsampling.covers, ?_⟩
  rintro result rfl more hmore
  rw [run_sampleRapidly_of_le window hact hmore past, hrun]
  rw [hrun]
  nofun

/-- Whatever the clock shows and whatever samples there are, rapid sampling that ends by itself gives
the samples of the window. This is so for any samples, and for the raw screen together with its
visible text. -/
theorem samplings (window : Float) (limit : Nat) :
    (∀ (α : Type) (s : Surroundings α) (past : List (Event α)), ∃ new outcome,
      GoesAsSampling s id window (fun limit => sampleRapidly s.bench s.take window limit) limit past
        new outcome) ∧
    ∀ (s : Surroundings Text) (past : List (Event Text)), ∃ new outcome,
      GoesAsSampling s Screen.withVisible window
        (fun limit => sampleRapidly s.rig.toBench s.rig.captureScreen window limit) limit past new
          outcome := by
  constructor
  · intro α s past
    exact exists_goesAsSampling s.isSample_take window limit past
  · intro s past
    exact exists_goesAsSampling s.isSample_captureScreen window limit past

/-- A clock that goes on by a second with each sample, and samples that are counted. -/
def ticking : Surroundings Nat where
  time := fun past => Float.ofNat (samples past).length
  sample := fun past => (samples past).length

example : ((sampleRapidly ticking.bench ticking.take 1).run.run []).1 = .ok [(0, 0), (1, 1)] := rfl

end TermPilot.Wait
