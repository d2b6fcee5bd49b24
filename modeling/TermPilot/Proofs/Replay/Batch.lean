import TermPilot.Proofs.Keys.Typing
import TermPilot.Proofs.Terminal.Script
import TermPilot.Replay.Script

/-!
# Batches of keys

A batch of keys is sent as one text or key by key. Both ways send the same characters, and both
stop at the first name that cannot be encoded, though not with the same characters sent.
-/

namespace TermPilot.Replay

open Typing (Encodings)

variable {timing : ReplayTiming} {keys : Encodings} {fault : Fault}

/-- The keys of a batch sent on their own, with a pause after each. -/
def spacedKeys (delay : Float) (texts : List Text) : List Action :=
  texts.flatMap fun text => [.send text, .pause delay]

/-- What a batch does whose keys have the given encodings: without a pause between keys it sends
them as one text, unless there is nothing to send. -/
def batchEffects (timing : ReplayTiming) (texts : List Text) : List Action :=
  (if timing.keyDelay == 0 then (if texts.flatten.isEmpty then [] else [.send texts.flatten])
    else spacedKeys timing.keyDelay texts) ++ [.pause timing.batchPause]

/-! ## Effects of the keys -/

section Keys

variable (found : List (Text × Option Text))

theorem filter_leftOut : (leftOut found).filter Action.isEffect = [] := by
  induction found with
  | nil => rfl
  | cons first rest ih =>
    obtain ⟨name, _ | text⟩ := first
    · exact ih
    · exact ih

theorem filter_keyActions (delay : Float) :
    (found.flatMap (keyActions delay)).filter Action.isEffect =
      spacedKeys delay (found.filterMap Prod.snd) := by
  induction found with
  | nil => rfl
  | cons first rest ih =>
    rw [List.flatMap_cons, List.filter_append, ih]
    obtain ⟨name, _ | text⟩ := first <;> rfl

end Keys

/-! ## Effects of a batch -/

section Batch

/-- A batch fails as its keys do. -/
theorem failure_batch (timing : ReplayTiming) (keys : Encodings) :
    (batch timing keys).failure = keys.failure := by
  unfold batch
  cases hfailure : keys.failure with
  | none =>
    cases timing.keyDelay == 0 <;>
      simp [Script.andThen, keyByKey, atOnce, hfailure, Script.of]
  | some fault =>
    cases timing.keyDelay == 0 <;> simp [Script.andThen, keyByKey, atOnce, hfailure]

theorem effects_batch (h : keys.failure = none) :
    (batch timing keys).effects = batchEffects timing keys.texts := by
  unfold batch batchEffects
  cases timing.keyDelay == 0 with
  | true =>
    have hnone : (atOnce keys).failure = none := by rw [atOnce, h]; rfl
    have heffects : (atOnce keys).effects =
        if keys.texts.flatten.isEmpty then [] else [.send keys.texts.flatten] := by
      rw [atOnce, h, Encodings.texts]
      simp only [Script.of, Script.effects, List.filter_append, filter_leftOut, List.nil_append]
      split <;> rfl
    simp only [if_true]
    rw [Script.effects_andThen hnone, heffects]
    rfl
  | false =>
    simp only [Bool.false_eq_true, if_false]
    rw [Script.effects_andThen (show (keyByKey timing.keyDelay keys).failure = none from h)]
    exact congrArg (· ++ _) (filter_keyActions keys.found timing.keyDelay)

/-- A batch with a key that fails has no pause after it. The keys in front of this key are sent only
if the keys are sent one by one. -/
theorem batch_of_failure (h : keys.failure = some fault) :
    batch timing keys =
      ⟨if timing.keyDelay == 0 then leftOut keys.found
        else keys.found.flatMap (keyActions timing.keyDelay), some fault⟩ := by
  unfold batch
  cases timing.keyDelay == 0 <;> simp [Script.andThen, keyByKey, atOnce, h]

theorem effects_batch_of_failure (h : keys.failure = some fault) :
    (batch timing keys).effects =
      if timing.keyDelay == 0 then [] else spacedKeys timing.keyDelay keys.texts := by
  rw [batch_of_failure h, Script.effects]
  cases timing.keyDelay == 0 with
  | true => exact filter_leftOut keys.found
  | false => exact filter_keyActions keys.found timing.keyDelay

end Batch

/-! ## Input -/

section Input

theorem texts_batchEffects (timing : ReplayTiming) (texts : List Text) :
    ((batchEffects timing texts).filterMap Action.text?).flatten = texts.flatten := by
  unfold batchEffects
  cases timing.keyDelay == 0 with
  | true =>
    cases hempty : texts.flatten.isEmpty with
    | true => simp [Action.text?, List.isEmpty_iff.mp hempty]
    | false => simp [Action.text?]
  | false =>
    have hspaced : (spacedKeys timing.keyDelay texts).filterMap Action.text? = texts := by
      rw [spacedKeys, List.filterMap_flatMap]
      exact List.flatMap_singleton' texts
    simp [Action.text?, hspaced]

theorem sizes_batchEffects (timing : ReplayTiming) (texts : List Text) :
    (batchEffects timing texts).filterMap Action.size? = [] := by
  unfold batchEffects
  cases timing.keyDelay == 0 with
  | true => cases texts.flatten.isEmpty <;> rfl
  | false =>
    have hspaced : (spacedKeys timing.keyDelay texts).filterMap Action.size? = [] := by
      rw [spacedKeys, List.filterMap_flatMap]
      exact List.flatMap_eq_nil_iff.mpr fun _ _ => rfl
    simp [Action.size?, hspaced]

end Input

end TermPilot.Replay
