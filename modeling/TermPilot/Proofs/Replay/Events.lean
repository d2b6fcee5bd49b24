import TermPilot.Proofs.Replay.Batch

/-!
# Events one after the other

Recorded events are replayed in order up to the first that fails. An event fails if it is a batch
with a name that cannot be encoded, or something done with the mouse at a position that cannot be
written.
-/

namespace TermPilot

open Recording (Fails IsBatch fails_error keysOf keysOf_of_not_isBatch not_fails_ok)

/-! ## Positions -/

section Positions

variable {col row : Int} (code : Nat) (final : String)

theorem Mouse.sequence_of_isWritable (hcol : IsWritable (col + 1)) (hrow : IsWritable (row + 1)) :
    sequence code col row final =
      .ok (Terminal.controlSequence s!"<{code};{col + 1};{row + 1}" final) := by
  have htext (n : Int) : Text.string (toString n).toList = toString n := String.ofList_toList
  simp only [sequence, coordinate, Numeral.write, if_pos hcol, if_pos hrow, Except.mapError, bind,
    Except.bind, htext]
  rfl

theorem Mouse.sequence_of_not_isWritable (h : ¬ IsWritable (col + 1) ∨ ¬ IsWritable (row + 1)) :
    ∃ number, sequence code col row final = .error (.unwritable number) := by
  by_cases hcol : IsWritable (col + 1)
  · have hrow := h.resolve_left (not_not_intro hcol)
    refine ⟨row + 1, ?_⟩
    simp only [sequence, coordinate, Numeral.write, if_pos hcol, if_neg hrow, Except.mapError]
    rfl
  · refine ⟨col + 1, ?_⟩
    simp only [sequence, coordinate, Numeral.write, if_neg hcol, Except.mapError]
    rfl

end Positions

namespace Replay

open Typing (Encodes encodeName encodings failure_encodings_eq_none_iff)

/-- The event happened with the mouse at a position that cannot be written: counted from one, its
column or its row has too many digits. -/
def HasOverlongPosition : RecordedEvent → Prop
  | .press _ col row | .release col row | .drag _ col row | .scroll _ col row | .move col row =>
    ¬ IsWritable (col + 1) ∨ ¬ IsWritable (row + 1)
  | .keys _ | .paste _ | .resize _ _ | .focus _ => False

instance : DecidablePred HasOverlongPosition
  | .press _ col row | .release col row | .drag _ col row | .scroll _ col row | .move col row =>
    inferInstanceAs (Decidable (¬ IsWritable (col + 1) ∨ ¬ IsWritable (row + 1)))
  | .keys _ | .paste _ | .resize _ _ | .focus _ => instDecidableFalse

/-! ## Encoders that remember -/

section Recalling

variable {τ : Type} {encoder : RecallingEncoder τ} {modes : KeyModes} {timing : ReplayTiming}
  {m m₁ m₂ : τ} {e : RecordedEvent} {before later : List RecordedEvent}
  {found : List (Text × Option Text)} {script : Script} {fault : Fault}

theorem run_eventWith_keys (names : List Text) :
    (eventWith encoder modes timing (.keys names)).run m =
      Prod.map (batch timing) id ((Typing.encodeNames encoder modes names).run m) := rfl

theorem run_eventWith_of_stopped {front rest : List Text} {name : Text} (timing : ReplayTiming)
    (h : Encodes encoder modes m front found m₁)
    (hname : (Typing.askName encoder modes name).run m₁ = (.error fault, m₂)) :
    (eventWith encoder modes timing (.keys (front ++ name :: rest))).run m =
      (batch timing { found, failure := some fault }, m₂) := by
  rw [run_eventWith_keys, h.run_stopped hname rest]
  rfl

/-- An event without keys is replayed without asking the encoder. It fails exactly if its position
cannot be written. -/
theorem run_eventWith_of_not_isBatch (encoder : RecallingEncoder τ) (modes : KeyModes)
    (timing : ReplayTiming) (m : τ) (h : ¬ IsBatch e) :
    ∃ script : Script, (eventWith encoder modes timing e).run m = (script, m) ∧
      (HasOverlongPosition e → ∃ number, script = .fail (.unwritable number)) ∧
      (¬ HasOverlongPosition e → script.failure = none) := by
  have hmouse (code : Nat) (col row : Int) (final : String) :
      ((¬ IsWritable (col + 1) ∨ ¬ IsWritable (row + 1)) →
        ∃ number, Script.sendOutcome (Mouse.sequence code col row final) =
          .fail (.unwritable number)) ∧
      (¬ (¬ IsWritable (col + 1) ∨ ¬ IsWritable (row + 1)) →
        (Script.sendOutcome (Mouse.sequence code col row final)).failure = none) := by
    refine ⟨fun hlong => ?_, fun hshort => ?_⟩
    · obtain ⟨number, hnumber⟩ := Mouse.sequence_of_not_isWritable code final hlong
      exact ⟨number, by rw [hnumber]; rfl⟩
    · rw [not_or, not_not, not_not] at hshort
      rw [Mouse.sequence_of_isWritable code final hshort.1 hshort.2]
      rfl
  cases e with
  | keys names => exact absurd ⟨names, rfl⟩ h
  | press | release | drag | scroll | move => exact ⟨_, rfl, hmouse _ _ _ _⟩
  | paste | resize | focus => exact ⟨_, rfl, False.elim, fun _ => rfl⟩

/-- An event does not fail if its keys are encoded and its position can be written. -/
theorem run_eventWith_of_encodes (timing : ReplayTiming) (hposition : ¬ HasOverlongPosition e)
    (h : Encodes encoder modes m (keysOf e) found m₁) :
    ∃ script : Script, (eventWith encoder modes timing e).run m = (script, m₁) ∧
      script.failure = none := by
  by_cases hkeys : IsBatch e
  · obtain ⟨names, rfl⟩ := hkeys
    have hrun : (Typing.encodeNames encoder modes names).run m = ({ found }, m₁) :=
      h.run_encodeNames
    rw [run_eventWith_keys, hrun]
    exact ⟨_, rfl, failure_batch timing _⟩
  · obtain ⟨script, hrun, -, hnone⟩ :=
      run_eventWith_of_not_isBatch encoder modes timing m hkeys
    rw [keysOf_of_not_isBatch hkeys] at h
    cases h
    exact ⟨script, hrun, hnone hposition⟩

/-- What an event can do: it does not fail, its position cannot be written, or a name of its keys
fails behind others that do not. -/
theorem run_eventWith_cases (encoder : RecallingEncoder τ) (modes : KeyModes)
    (timing : ReplayTiming) (m : τ) (e : RecordedEvent) :
    (∃ found m₁, Encodes encoder modes m (keysOf e) found m₁ ∧ ¬ HasOverlongPosition e) ∨
      (∃ number, (eventWith encoder modes timing e).run m = (.fail (.unwritable number), m)) ∨
      ∃ front name rest found m₁ fault m₂, e = .keys (front ++ name :: rest) ∧
        Encodes encoder modes m front found m₁ ∧
        (Typing.askName encoder modes name).run m₁ = (.error fault, m₂) := by
  by_cases hkeys : IsBatch e
  · obtain ⟨names, rfl⟩ := hkeys
    rcases Typing.encodes_or_stops encoder modes m names with ⟨found, m₁, hall⟩ | hstops
    · exact Or.inl ⟨found, m₁, hall, id⟩
    · obtain ⟨front, name, rest, found, m₁, fault, m₂, rfl, hfront, hname⟩ := hstops
      exact Or.inr (Or.inr ⟨front, name, rest, found, m₁, fault, m₂, rfl, hfront, hname⟩)
  · obtain ⟨script, hrun, hfail, -⟩ :=
      run_eventWith_of_not_isBatch encoder modes timing m hkeys
    by_cases hposition : HasOverlongPosition e
    · obtain ⟨number, rfl⟩ := hfail hposition
      exact Or.inr (Or.inl ⟨number, hrun⟩)
    · rw [keysOf_of_not_isBatch hkeys]
      exact Or.inl ⟨[], m, .nil m, hposition⟩

/-- Behind an event that fails, the encoder is not asked and nothing is sent. -/
theorem run_eventsWith_cons (h : (eventWith encoder modes timing e).run m = (script, m₁))
    (later : List RecordedEvent) :
    (eventsWith encoder modes timing (e :: later)).run m =
      match script.failure with
      | some _ => (script, m₁)
      | none => Prod.map script.andThen id ((eventsWith encoder modes timing later).run m₁) := by
  rw [eventsWith, StateT.run_bind, h]
  obtain ⟨actions, failure⟩ := script
  cases failure <;> rfl

/-- Events do not fail if their keys are encoded one after the other and all positions can be
written. What comes behind them is replayed with what the encoder remembers of them. -/
theorem run_eventsWith_append (timing : ReplayTiming) (later : List RecordedEvent)
    (hpositions : ∀ e ∈ before, ¬ HasOverlongPosition e)
    (h : Encodes encoder modes m (before.flatMap keysOf) found m₁) :
    ∃ script : Script, script.failure = none ∧
      (eventsWith encoder modes timing before).run m = (script, m₁) ∧
      (eventsWith encoder modes timing (before ++ later)).run m =
        Prod.map script.andThen id ((eventsWith encoder modes timing later).run m₁) := by
  induction before generalizing m found with
  | nil =>
    cases h
    exact ⟨{}, rfl, rfl, rfl⟩
  | cons e rest ih =>
    obtain ⟨hposition, hrest⟩ := List.forall_mem_cons.mp hpositions
    rw [List.flatMap_cons] at h
    obtain ⟨front, back, m₂, hfront, hback⟩ := h.of_append
    obtain ⟨first, hfirst, hnone⟩ := run_eventWith_of_encodes timing hposition hfront
    obtain ⟨script, hscript, hrun, happend⟩ := ih hrest hback
    refine ⟨first.andThen script, ?_, ?_, ?_⟩
    · exact Script.failure_andThen_eq_none_iff.mpr ⟨hnone, hscript⟩
    · rw [run_eventsWith_cons hfirst, hnone, hrun]
      rfl
    · rw [List.cons_append, run_eventsWith_cons hfirst, hnone, happend]
      dsimp only
      rw [Prod.map_map]
      congr 1
      funext behind
      exact (Script.andThen_assoc first script behind).symm

end Recalling

/-! ## Encoders that remember nothing -/

section Pure

variable {encoder : KeyEncoder} {modes : KeyModes} {timing : ReplayTiming} {e : RecordedEvent}

theorem event_keys (encoder : KeyEncoder) (modes : KeyModes) (timing : ReplayTiming)
    (names : List Text) :
    event encoder modes timing (.keys names) = batch timing (encodings encoder modes names) := rfl

/-- Events are replayed one by one, up to the first that fails. -/
theorem events_eq_sequence (encoder : KeyEncoder) (modes : KeyModes) (timing : ReplayTiming)
    (recorded : List RecordedEvent) :
    events encoder modes timing recorded =
      .sequence (recorded.map (event encoder modes timing)) := by
  induction recorded with
  | nil => rfl
  | cons e later ih =>
    have hfirst : (eventWith encoder.recalling modes timing e).run () =
        (event encoder modes timing e, ()) := rfl
    rw [List.map_cons, Script.sequence, ← ih, events, run_eventsWith_cons hfirst]
    cases hfailure : (event encoder modes timing e).failure with
    | some fault => rw [Script.andThen_of_failure hfailure]
    | none => rfl

/-- The event can be replayed: its position can be written and its keys can be encoded. -/
def IsPlayable (encoder : KeyEncoder) (modes : KeyModes) (e : RecordedEvent) : Prop :=
  ¬ HasOverlongPosition e ∧ ∀ name ∈ keysOf e, ¬ Fails (encodeName encoder modes name)

theorem failure_event_eq_none_iff :
    (event encoder modes timing e).failure = none ↔ IsPlayable encoder modes e := by
  by_cases hkeys : IsBatch e
  · obtain ⟨names, rfl⟩ := hkeys
    rw [event_keys, failure_batch, failure_encodings_eq_none_iff]
    exact (and_iff_right id).symm
  · obtain ⟨script, hrun, hfail, hnone⟩ :=
      run_eventWith_of_not_isBatch encoder.recalling modes timing () hkeys
    have hevent : event encoder modes timing e = script := congrArg Prod.fst hrun
    rw [IsPlayable, hevent, keysOf_of_not_isBatch hkeys,
      and_iff_left (List.forall_mem_nil _)]
    refine ⟨fun h hlong => ?_, hnone⟩
    obtain ⟨number, rfl⟩ := hfail hlong
    cases h

theorem failure_events_eq_none_iff {recorded : List RecordedEvent} :
    (events encoder modes timing recorded).failure = none ↔
      ∀ e ∈ recorded, IsPlayable encoder modes e := by
  rw [events_eq_sequence, Script.failure_sequence_eq_none_iff, List.forall_mem_map]
  simp only [failure_event_eq_none_iff]

theorem events_append (before later : List RecordedEvent) :
    events encoder modes timing (before ++ later) =
      (events encoder modes timing before).andThen (events encoder modes timing later) := by
  rw [events_eq_sequence, List.map_append, Script.sequence_append, ← events_eq_sequence,
    ← events_eq_sequence]

theorem events_singleton (e : RecordedEvent) :
    events encoder modes timing [e] = event encoder modes timing e := by
  rw [events_eq_sequence, List.map_singleton, Script.sequence_singleton]

end Pure

end Replay

end TermPilot
