import TermPilot.Proofs.Replay.Events
import TermPilot.Proofs.Terminal.Scripted

/-!
# The timing of a replay

The timing of a replay decides where it pauses and how the keys of a batch are divided into writes.
It does not decide what is sent.
-/

namespace TermPilot.Replay

open Recording (Fails IsBatch keysOf)
open Typing (Accepts Encodings encodeName encodings encodings_of_error encodings_of_ok
  failure_encodings_eq_none_iff fails_encodeName_iff keyTexts keyTexts_cons texts_encodings)

variable {encoder : KeyEncoder} {modes : KeyModes} {timing other : ReplayTiming}
  {before recorded : List RecordedEvent} {e : RecordedEvent} {names : List Text}
  {share : List Action}

/-! ## What one event more adds -/

/-- Behind the events `before` the event `e` adds the actions `share` to what a scripted terminal
has on record. -/
def Adds (encoder : KeyEncoder) (modes : KeyModes) (timing : ReplayTiming)
    (before : List RecordedEvent) (e : RecordedEvent) (share : List Action) : Prop :=
  ∀ s : Scripted,
    (((events encoder modes timing (before ++ [e])).perform Scripted.rig).run.run s).2.done =
      (share.filterMap Scripted.eventOf?).reverse ++
        (((events encoder modes timing before).perform Scripted.rig).run.run s).2.done

section Adds

/-- What is done for an event, which is nothing if the replay has ended before it. -/
def shareOf (encoder : KeyEncoder) (modes : KeyModes) (timing : ReplayTiming)
    (before : List RecordedEvent) (e : RecordedEvent) : List Action :=
  match (events encoder modes timing before).failure with
  | some _ => []
  | none => (event encoder modes timing e).effects

theorem effects_events_append_singleton (before : List RecordedEvent) (e : RecordedEvent) :
    (events encoder modes timing (before ++ [e])).effects =
      (events encoder modes timing before).effects ++ shareOf encoder modes timing before e := by
  rw [events_append, events_singleton, shareOf]
  cases hfailure : (events encoder modes timing before).failure with
  | some fault => rw [Script.andThen_of_failure hfailure, List.append_nil]
  | none => exact Script.effects_andThen hfailure _

theorem filter_shareOf (before : List RecordedEvent) (e : RecordedEvent) :
    (shareOf encoder modes timing before e).filter Action.isEffect =
      shareOf encoder modes timing before e := by
  unfold shareOf
  cases (events encoder modes timing before).failure with
  | some fault => rfl
  | none => simp [Script.effects]

/-- What an event adds is determined by the record. -/
theorem adds_iff : Adds encoder modes timing before e share ↔
    share.filter Action.isEffect = shareOf encoder modes timing before e := by
  have hdone (script : Script) (s : Scripted) :
      ((script.perform Scripted.rig).run.run s).2.done =
        (script.effects.filterMap Scripted.eventOf?).reverse ++ s.done := by
    obtain ⟨s', hrun, hs'⟩ := Scripted.exists_perform_script script s
    rw [hrun, hs']
  unfold Adds
  simp only [hdone, effects_events_append_singleton, List.filterMap_append, List.reverse_append,
    List.append_assoc, List.append_cancel_right_eq, List.reverse_inj]
  constructor
  · intro h
    rw [← filter_shareOf, ← Scripted.filterMap_actionOf?, ← Scripted.filterMap_actionOf?,
      h { screens := [], tick := 0 }]
  · intro h s
    rw [← Scripted.filterMap_eventOf? share, h]

/-- An event that is reached adds what it does. -/
theorem shareOf_of_reached (timing : ReplayTiming) (e : RecordedEvent)
    (h : ∀ b ∈ before, IsPlayable encoder modes b) :
    shareOf encoder modes timing before e = (event encoder modes timing e).effects := by
  have hnone : (events encoder modes timing before).failure = none :=
    failure_events_eq_none_iff.mpr h
  rw [shareOf, hnone]

theorem shareOf_of_not_reached (timing : ReplayTiming) (e : RecordedEvent)
    (h : ¬ ∀ b ∈ before, IsPlayable encoder modes b) :
    shareOf encoder modes timing before e = [] := by
  have hfailure : (events encoder modes timing before).failure ≠ none :=
    mt failure_events_eq_none_iff.mp h
  obtain ⟨fault, hfault⟩ := Option.ne_none_iff_exists'.mp hfailure
  rw [shareOf, hfault]

end Adds

/-! ## Batches -/

section Batch

theorem filter_batchEffects (timing : ReplayTiming) (texts : List Text) :
    (batchEffects timing texts).filter Action.isEffect = batchEffects timing texts := by
  have hall : ∀ action ∈ batchEffects timing texts, action.isEffect = true := by
    unfold batchEffects spacedKeys
    cases timing.keyDelay == 0 with
    | true => cases texts.flatten.isEmpty <;> simp [Action.isEffect]
    | false =>
      simp only [Bool.false_eq_true, if_false, List.mem_append, List.mem_flatMap, List.mem_cons,
        List.not_mem_nil, or_false]
      rintro action (⟨text, -, rfl | rfl⟩ | rfl) <;> rfl
  exact List.filter_eq_self.mpr hall

/-- A batch that fails does not do what a batch does that does not fail: it lacks the last pause. -/
theorem failure_eq_none_of_effects_batch {keys : Encodings} {texts : List Text}
    (h : (batch timing keys).effects = batchEffects timing texts) : keys.failure = none := by
  by_contra hfailure
  obtain ⟨fault, hfault⟩ := Option.ne_none_iff_exists'.mp hfailure
  rw [effects_batch_of_failure hfault, batchEffects] at h
  have hlength := congrArg List.length h
  cases hzero : timing.keyDelay == 0 with
  | true =>
    rw [hzero] at hlength
    simp at hlength
  | false =>
    -- sends and pauses alternate, so that there are evenly many of them in front of the last pause
    have hspaced (texts : List Text) :
        (spacedKeys timing.keyDelay texts).length = 2 * texts.length := by
      simp [spacedKeys, Nat.mul_comm]
    rw [hzero] at hlength
    simp only [Bool.false_eq_true, if_false, List.length_append, hspaced,
      List.length_singleton] at hlength
    omega

/-- A batch does what it should exactly if it is reached and its keys can be encoded. -/
theorem shareOf_keys_iff : shareOf encoder modes timing before (.keys names) =
      batchEffects timing (keyTexts encoder modes names) ↔
    (∀ b ∈ before, IsPlayable encoder modes b) ∧
      ∀ name ∈ names, ¬ Fails (encodeName encoder modes name) := by
  by_cases hreached : ∀ b ∈ before, IsPlayable encoder modes b
  · rw [shareOf_of_reached timing _ hreached, and_iff_right hreached, event_keys]
    constructor
    · intro h
      exact failure_encodings_eq_none_iff.mp (failure_eq_none_of_effects_batch h)
    · intro h
      rw [effects_batch (failure_encodings_eq_none_iff.mpr h), texts_encodings h]
  · rw [shareOf_of_not_reached timing _ hreached]
    refine iff_of_false ?_ fun h => hreached h.1
    simp [batchEffects]

/-- The timing does not matter for an event that is no batch. -/
theorem shareOf_eq_of_not_isBatch (h : ¬ IsBatch e) (timing other : ReplayTiming) :
    shareOf encoder modes timing before e = shareOf encoder modes other before e := by
  have hevent : event encoder modes timing e = event encoder modes other e := by
    cases e with
    | keys names => exact absurd ⟨names, rfl⟩ h
    | _ => rfl
  by_cases hreached : ∀ b ∈ before, IsPlayable encoder modes b
  · rw [shareOf_of_reached timing e hreached, shareOf_of_reached other e hreached, hevent]
  · rw [shareOf_of_not_reached timing e hreached, shareOf_of_not_reached other e hreached]

end Batch

/-- Whatever the timing, each event gives the terminal the same sizes and the same characters as
under every other timing, and a batch is sent as one text or key by key. With an encoder that
refuses no key this holds exactly if each batch is reached, no position in front of it being too
long to be written, and names no function key by an overlong number. -/
theorem events_timing (encoder : KeyEncoder) (modes : KeyModes) (recorded : List RecordedEvent)
    (h : ∀ e ∈ recorded, ∀ name ∈ keysOf e, Accepts encoder modes name) :
    (∀ before names after, recorded = before ++ .keys names :: after →
      (∀ b ∈ before, ¬ HasOverlongPosition b) ∧
        ∀ name ∈ names, ¬ KeyPress.HasOverlongNumber name) ↔
      ∀ before e after, recorded = before ++ e :: after → ∃ share : ReplayTiming → List Action,
        (∀ timing, Adds encoder modes timing before e (share timing)) ∧
        (∀ timing other,
          (share timing).filterMap Action.size? = (share other).filterMap Action.size? ∧
            ((share timing).filterMap Action.text?).flatten =
              ((share other).filterMap Action.text?).flatten) ∧
        ∀ names, e = .keys names → ∀ timing,
          share timing = batchEffects timing (keyTexts encoder modes names) := by
  have hfails : ∀ e ∈ recorded, ∀ name ∈ keysOf e,
      (Fails (encodeName encoder modes name) ↔ KeyPress.HasOverlongNumber name) :=
    fun e he name hname => fails_encodeName_iff (h e he name hname)
  constructor
  · intro hbatches before e after hsplit
    refine ⟨fun timing => shareOf encoder modes timing before e,
      fun timing => adds_iff.mpr (filter_shareOf before e), ?_⟩
    by_cases hkeys : IsBatch e
    · obtain ⟨names, rfl⟩ := hkeys
      have hencoded : ∀ b ∈ recorded, ∀ name ∈ keysOf b,
          ¬ Fails (encodeName encoder modes name) := by
        intro b hb name hname
        obtain ⟨front, rest, hrecorded⟩ := List.append_of_mem hb
        cases b with
        | keys names =>
          rw [hfails _ hb name hname]
          exact (hbatches front names rest hrecorded).2 name hname
        | _ => cases hname
      have hbefore : ∀ b ∈ before, IsPlayable encoder modes b := fun b hb =>
        ⟨(hbatches before names after hsplit).1 b hb, hencoded b (by simp [hsplit, hb])⟩
      have hshare (timing : ReplayTiming) : shareOf encoder modes timing before (.keys names) =
          batchEffects timing (keyTexts encoder modes names) :=
        shareOf_keys_iff.mpr ⟨hbefore, hencoded (.keys names) (by simp [hsplit])⟩
      refine ⟨fun timing other => ?_, ?_⟩
      · simp only [hshare, sizes_batchEffects, texts_batchEffects, and_self]
      · rintro names' ⟨⟩ timing
        exact hshare timing
    · refine ⟨fun timing other => ?_, fun names hnames => absurd ⟨names, hnames⟩ hkeys⟩
      dsimp only
      rw [shareOf_eq_of_not_isBatch hkeys timing other]
      exact ⟨rfl, rfl⟩
  · intro hevents before names after hsplit
    obtain ⟨share, hadds, -, hshare⟩ := hevents before (.keys names) after hsplit
    have hadded := adds_iff.mp (hadds ⟨0, 0⟩)
    rw [hshare names rfl, filter_batchEffects] at hadded
    obtain ⟨hbefore, hnames⟩ := shareOf_keys_iff.mp hadded.symm
    refine ⟨fun b hb => (hbefore b hb).1, fun name hname => ?_⟩
    rw [← hfails (.keys names) (by simp [hsplit]) name hname]
    exact hnames name hname

/-- Keys of several kinds, a name that stands for no key, the mouse, an empty batch and a size. -/
def sampleEvents : List RecordedEvent :=
  [.keys ["a".toList, "nokey".toList, "C-up".toList], .move 3 4, .resize 80 24, .keys []]

theorem events_timing_sampleEvents :
    (∀ e ∈ sampleEvents, ∀ name ∈ keysOf e, Accepts .standard {} name) ∧
      ∀ before e after, sampleEvents = before ++ e :: after →
        ∃ share : ReplayTiming → List Action,
          (∀ timing, Adds .standard {} timing before e (share timing)) ∧
          (∀ timing other,
            (share timing).filterMap Action.size? = (share other).filterMap Action.size? ∧
              ((share timing).filterMap Action.text?).flatten =
                ((share other).filterMap Action.text?).flatten) ∧
          ∀ names, e = .keys names → ∀ timing,
            share timing = batchEffects timing (keyTexts .standard {} names) := by
  have haccepts : ∀ e ∈ sampleEvents, ∀ name ∈ keysOf e, Accepts .standard {} name := by decide
  have hsendable : ∀ e ∈ sampleEvents, ¬ HasOverlongPosition e ∧
      ∀ name ∈ keysOf e, ¬ Fails (KeyPress.ofName? name) := by decide
  refine ⟨haccepts, (events_timing .standard {} sampleEvents haccepts).mp ?_⟩
  intro before names after hsplit
  rw [hsplit] at hsendable
  refine ⟨fun b hb => (hsendable b (by simp [hb])).1, fun name hname => ?_⟩
  rw [← KeyPress.fails_ofName?_iff]
  exact (hsendable (.keys names) (by simp)).2 name hname

/-! ## Keys that cannot be looked up -/

/-- The name of a function key by a number that is too long. -/
def overlongKey : Text := 'f' :: List.replicate 4301 '1'

theorem hasOverlongNumber_overlongKey : KeyPress.HasOverlongNumber overlongKey := by
  have hnumeral : ∀ n, Text.isNumeral (List.replicate (n + 1) '1') = true := by
    intro n
    simp [Text.isNumeral, List.replicate_succ]
  refine ⟨'f', List.replicate 4301 '1', rfl, Or.inl rfl, hnumeral 4300, ?_⟩
  rw [List.length_replicate]
  decide

/-- A batch in which an overlong name follows another key stops at that name, after the other key or
with nothing sent, and without the pause of a batch. -/
theorem batch_overlongKey :
    (∀ name ∈ ["a".toList, overlongKey], Accepts .standard {} name) ∧
      ∀ timing, Adds .standard {} timing [] (.keys ["a".toList, overlongKey])
          (if timing.keyDelay == 0 then [] else [.send "a".toList, .pause timing.keyDelay]) ∧
        ¬ Adds .standard {} timing [] (.keys ["a".toList, overlongKey])
          (batchEffects timing (keyTexts .standard {} ["a".toList, overlongKey])) := by
  have haccepts : Accepts .standard {} overlongKey := hasOverlongNumber_overlongKey.accepts _ _
  have hlast : Fails (encodeName .standard {} overlongKey) :=
    (fails_encodeName_iff haccepts).mpr hasOverlongNumber_overlongKey
  refine ⟨?_, fun timing => ⟨?_, ?_⟩⟩
  · rw [List.forall_mem_cons, List.forall_mem_singleton]
    exact ⟨by decide, haccepts⟩
  · obtain ⟨fault, hfault⟩ := hlast
    have hfirst : encodeName .standard {} "a".toList = .ok (some "a".toList) := rfl
    have hkeys : encodings .standard {} ["a".toList, overlongKey] =
        { found := [("a".toList, some "a".toList)], failure := some fault } := by
      rw [encodings_of_ok hfirst, encodings_of_error hfault]
      rfl
    rw [adds_iff, shareOf_of_reached timing _ (List.forall_mem_nil _), event_keys,
      effects_batch_of_failure (congrArg Encodings.failure hkeys), hkeys]
    cases timing.keyDelay == 0 <;> rfl
  · rw [adds_iff, filter_batchEffects]
    intro hadded
    exact (shareOf_keys_iff.mp hadded.symm).2 overlongKey (by simp) hlast

end TermPilot.Replay
