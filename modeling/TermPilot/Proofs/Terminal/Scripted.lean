import TermPilot.Proofs.Terminal.Script
import TermPilot.Terminal.Scripted

/-!
# Scripts on a scripted terminal

A scripted terminal takes every action and puts it on record, so the record shows what carrying out
a script does to a terminal and its clock.
-/

namespace TermPilot.Scripted

/-- What a scripted terminal puts on record when an action is carried out. -/
def eventOf? : Action → Option Event
  | .send text => some (.sent text)
  | .resize cols rows => some (.resized cols rows)
  | .pause seconds => some (.slept seconds)
  | .log _ => none

/-- The action that was carried out, by what is on record of it. -/
def actionOf? : Event → Option Action
  | .sent text => some (.send text)
  | .resized cols rows => some (.resize cols rows)
  | .slept seconds => some (.pause seconds)
  | _ => none

/-- All that an action does to the terminal and its clock is on record. -/
theorem filterMap_actionOf? (actions : List Action) :
    (actions.filterMap eventOf?).filterMap actionOf? = actions.filter Action.isEffect := by
  rw [List.filterMap_filterMap, ← List.filterMap_eq_filter]
  congr 1
  funext action
  cases action <;> rfl

theorem filterMap_eventOf? (actions : List Action) :
    (actions.filter Action.isEffect).filterMap eventOf? = actions.filterMap eventOf? := by
  rw [List.filterMap_filter]
  congr 1
  funext action
  cases action <;> rfl

/-! ## Actions -/

theorem exists_perform_action (action : Action) (s : Scripted) :
    ∃ s', (action.perform rig).run.run s = (.ok (), s') ∧
      s'.done = (eventOf? action).toList ++ s.done := by
  cases action with
  | send text => exact ⟨_, rfl, rfl⟩
  | resize cols rows => exact ⟨_, rfl, rfl⟩
  | pause seconds => exact ⟨_, rfl, rfl⟩
  | log record =>
    refine ⟨_, rfl, ?_⟩
    show (if record.level < s.threshold then s else _).done = s.done
    split <;> rfl

/-- A scripted terminal takes every action. -/
theorem exists_perform (actions : List Action) (s : Scripted) :
    ∃ s', (actions.forM (Action.perform rig)).run.run s = (.ok (), s') ∧
      s'.done = (actions.filterMap eventOf?).reverse ++ s.done := by
  induction actions generalizing s with
  | nil => exact ⟨s, rfl, rfl⟩
  | cons action rest ih =>
    obtain ⟨s', hs', hdone⟩ := exists_perform_action action s
    obtain ⟨s'', hs'', hrest⟩ := ih s'
    refine ⟨s'', ?_, ?_⟩
    · rw [List.forM_eq_forM, List.forM_cons, Act.run_bind_of_ok hs']
      exact hs''
    · rw [hrest, hdone, List.filterMap_cons]
      cases eventOf? action <;> simp

/-! ## Scripts -/

/-- A script is carried out up to its failure, if it has one. -/
theorem exists_perform_script (script : Script) (s : Scripted) :
    ∃ s', (script.perform rig).run.run s =
        ((match script.failure with
          | some fault => .error fault
          | none => .ok ()), s') ∧
      s'.done = (script.effects.filterMap eventOf?).reverse ++ s.done := by
  obtain ⟨s', hs', hdone⟩ := exists_perform script.actions s
  refine ⟨s', ?_, ?_⟩
  · rw [Script.perform, Act.run_bind_of_ok hs']
    cases script.failure <;> rfl
  · rw [Script.effects, filterMap_eventOf?, hdone]

/-- On a scripted terminal what is sent after some actions comes last, or is all that fails. -/
theorem perform_sendEncoded (actions : List Action) (start : Scripted) :
    ∃ s, ∀ encoded : Except KeyEncodingError Text,
      (((Script.of actions).andThen (.sendEncoded encoded)).perform rig).run.run start =
        match encoded with
        | .ok text => (.ok (), { s with done := .sent text :: s.done })
        | .error error => (.error (.encoding error), s) := by
  obtain ⟨s, hs, -⟩ := exists_perform actions start
  refine ⟨s, fun encoded => ?_⟩
  rw [Script.perform_andThen, Script.perform_of, Act.run_bind_of_ok hs]
  cases encoded <;> rfl

theorem encoded_of_perform {actions : List Action} {x y : Except KeyEncodingError Text}
    (h : ((Script.of actions).andThen (.sendEncoded x)).perform rig =
      ((Script.of actions).andThen (.sendEncoded y)).perform rig) : x = y := by
  obtain ⟨s, hs⟩ := perform_sendEncoded actions { screens := [], tick := 0 }
  have hsame := hs x
  rw [h, hs y] at hsame
  cases x with
  | ok text =>
    cases y with
    | ok other => cases hsame; rfl
    | error error => cases hsame
  | error error =>
    cases y with
    | ok other => cases hsame
    | error other => cases hsame; rfl

end TermPilot.Scripted
