import TermPilot.Terminal.Script

/-!
# Scripts one after the other

What scripts do together when none of them fails, and how they are carried out. What a script does
to the terminal and its clock is told apart from what it writes to the log.
-/

namespace TermPilot

/-! ## Work one after the other -/

namespace Act

variable {ε σ α β : Type}

/-- What comes after work that does not fail is done on the world that this work leaves. -/
theorem run_bind_of_ok {act : Act ε σ α} {next : α → Act ε σ β} {s s' : σ} {a : α}
    (h : act.run.run s = (.ok a, s')) : (act >>= next).run.run s = (next a).run.run s' := by
  rw [ExceptT.run_bind, StateT.run_bind, h]
  rfl

/-- What comes after work that fails is not done. -/
theorem run_bind_of_error {act : Act ε σ α} {s s' : σ} {error : ε}
    (h : act.run.run s = (.error error, s')) (next : α → Act ε σ β) :
    (act >>= next).run.run s = (.error error, s') := by
  rw [ExceptT.run_bind, StateT.run_bind, h]
  rfl

theorem run_map (f : α → β) (act : Act ε σ α) (s : σ) :
    (f <$> act).run.run s = (f <$> (act.run.run s).1, (act.run.run s).2) := by
  rw [ExceptT.run_map, StateT.run_map]
  rfl

theorem run_settle (outcome : Except ε α) (s : σ) :
    (settle outcome : Act ε σ α).run.run s = (outcome, s) := by
  cases outcome <;> rfl

theorem run_observe (act : Act ε σ α) (s : σ) :
    (observe act).run.run s = (.ok (act.run.run s).1, (act.run.run s).2) := rfl

theorem settle_bind_congr {outcome : Except ε α} {f g : α → Act ε σ β}
    (h : ∀ a, outcome = .ok a → f a = g a) : (settle outcome >>= f) = (settle outcome >>= g) := by
  cases outcome with
  | error error => rfl
  | ok a => exact h a rfl

end Act

/-! ## Effects -/

/-- The text that an action sends. -/
def Action.text? : Action → Option Text
  | .send text => some text
  | _ => none

/-- The size in columns and rows that an action gives the terminal. -/
def Action.size? : Action → Option (Int × Int)
  | .resize cols rows => some (cols, rows)
  | _ => none

/-- Whether an action does something to the terminal or its clock. -/
def Action.isEffect : Action → Bool
  | .log _ => false
  | _ => true

namespace Script

/-- What a script does to the terminal and its clock, in order. -/
def effects (script : Script) : List Action := script.actions.filter Action.isEffect

/-- The texts that a script sends, in order. -/
def texts (script : Script) : List Text := script.actions.filterMap Action.text?

theorem texts_eq (script : Script) : script.texts = script.effects.filterMap Action.text? := by
  rw [texts, effects, List.filterMap_filter]
  congr 1
  funext action
  cases action <;> rfl

/-! ## Scripts that do not fail -/

section Sequence

variable {first second : Script} {scripts : List Script}

theorem andThen_of_failure {fault : Fault} (h : first.failure = some fault) (second : Script) :
    first.andThen second = first := by
  rw [andThen, h]

theorem failure_andThen_eq_none_iff :
    (first.andThen second).failure = none ↔ first.failure = none ∧ second.failure = none := by
  cases hfirst : first.failure with
  | none => simp [andThen, hfirst]
  | some fault => simp [andThen_of_failure hfirst, hfirst]

theorem actions_andThen (h : first.failure = none) (second : Script) :
    (first.andThen second).actions = first.actions ++ second.actions := by
  rw [andThen, h]

theorem effects_andThen (h : first.failure = none) (second : Script) :
    (first.andThen second).effects = first.effects ++ second.effects := by
  rw [effects, actions_andThen h, List.filter_append]
  rfl

theorem sequence_singleton (script : Script) : sequence [script] = script := by
  obtain ⟨actions, failure⟩ := script
  cases failure with
  | none => simp [sequence, andThen]
  | some fault => rfl

/-- Scripts do not fail together if none of them does. -/
theorem failure_sequence_eq_none_iff :
    (sequence scripts).failure = none ↔ ∀ script ∈ scripts, script.failure = none := by
  induction scripts with
  | nil => simp [sequence]
  | cons first rest ih => rw [sequence, failure_andThen_eq_none_iff, ih, List.forall_mem_cons]

theorem andThen_assoc (first second third : Script) :
    (first.andThen second).andThen third = first.andThen (second.andThen third) := by
  cases hfirst : first.failure with
  | some fault => simp only [andThen_of_failure hfirst]
  | none =>
    cases hsecond : second.failure with
    | some fault =>
      have hboth : (first.andThen second).failure = some fault := by simp [andThen, hfirst, hsecond]
      rw [andThen_of_failure hboth, andThen_of_failure hsecond]
    | none => simp [andThen, hfirst, hsecond]

theorem sequence_append (scripts rest : List Script) :
    sequence (scripts ++ rest) = (sequence scripts).andThen (sequence rest) := by
  induction scripts with
  | nil => rfl
  | cons script scripts ih =>
    show script.andThen (sequence (scripts ++ rest)) =
      (script.andThen (sequence scripts)).andThen (sequence rest)
    rw [ih, andThen_assoc]

end Sequence

/-! ## Scripts carried out -/

section Perform

variable {σ : Type} (rig : Rig σ)

theorem perform_of (actions : List Action) :
    (of actions).perform rig = actions.forM (Action.perform rig) := bind_pure _

theorem perform_andThen (first second : Script) :
    (first.andThen second).perform rig = (do first.perform rig; second.perform rig) := by
  cases hfirst : first.failure with
  | none => simp [perform, andThen, hfirst, List.forM_append]
  | some fault => simp [perform, andThen_of_failure hfirst, hfirst]

end Perform

end Script

end TermPilot
