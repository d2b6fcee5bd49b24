import TermPilot.Proofs.Replay.Events
import TermPilot.Proofs.Terminal.Scripted
import TermPilot.Scenario.Run

/-!
# The modes that the keys of a scenario are encoded for

A scenario is run as if its encoder knew no modes but those of the conductor, with one exception:
the key press that runs a typed text is encoded under the default modes.
-/

namespace TermPilot

variable {σ : Type}

/-- The encoder that encodes every key press under the given modes, whatever it is asked for. -/
def KeyEncoder.under (encoder : KeyEncoder) (modes : KeyModes) : KeyEncoder :=
  fun key mods _ => encoder key mods modes

/-! ## Scripts -/

section Scripts

variable {encoder : KeyEncoder} {modes : KeyModes}

theorem Typing.encodings_under (names : List Text) :
    encodings (encoder.under modes) modes names = encodings encoder modes names := by
  induction names with
  | nil => rfl
  | cons name names ih =>
    have hname : encodeName (encoder.under modes) modes name = encodeName encoder modes name := rfl
    cases hencoded : encodeName encoder modes name with
    | error fault => rw [encodings_of_error (hname.trans hencoded), encodings_of_error hencoded]
    | ok encoded => rw [encodings_of_ok (hname.trans hencoded), encodings_of_ok hencoded, ih]

theorem Replay.events_under (timing : ReplayTiming) :
    events (encoder.under modes) modes timing = events encoder modes timing := by
  have hevent : event (encoder.under modes) modes timing = event encoder modes timing := by
    funext e
    cases e with
    | keys names => rw [event_keys, event_keys, Typing.encodings_under]
    | _ => rfl
  funext recorded
  rw [events_eq_sequence, events_eq_sequence, hevent]

theorem Typing.textAndExecute_eq (encoder : KeyEncoder) (t : Text) :
    textAndExecute encoder t =
      (text 0 t).andThen (.sendEncoded (encoder execute.key execute.mods {})) := by
  rw [textAndExecute, keys, List.map_singleton, Script.sequence_singleton]

end Scripts

/-! ## Steps -/

/-- The step types a text and runs it. -/
def ScenarioStep.Executes (step : ScenarioStep) : Prop := ∃ t, step = .text t true

namespace Conductor

/-- The conductor whose encoder knows no modes but those of the conductor. -/
def pinned (c : Conductor) : Conductor := { c with encoder := c.encoder.under c.modes }

/-- The key press that runs a typed text has the same encoding under the default modes as under
those of the conductor. -/
def ExecutesAlike (c : Conductor) : Prop :=
  c.encoder Typing.execute.key Typing.execute.mods {} =
    c.encoder Typing.execute.key Typing.execute.mods c.modes

/-- A step that does not run a typed text encodes keys under no modes but those of the conductor. -/
theorem step_pinned (c : Conductor) {step : ScenarioStep} (h : step.Executes → c.ExecutesAlike)
    (rig : Rig σ) (label : String) (timing : ReplayTiming) :
    c.step rig label timing step = c.pinned.step rig label timing step := by
  cases step with
  | replay recording own =>
    have hevents : Replay.events c.pinned.encoder c.pinned.modes (own.getD timing) =
        Replay.events c.encoder c.modes (own.getD timing) := Replay.events_under _
    rw [step, step, hevents]
  | text t execute =>
    cases execute with
    | false => rfl
    | true =>
      have halike : c.ExecutesAlike := h ⟨t, rfl⟩
      have htext :
          Typing.textAndExecute c.encoder t = Typing.textAndExecute c.pinned.encoder t := by
        rw [Typing.textAndExecute_eq, Typing.textAndExecute_eq, halike]
        rfl
      simp only [step, htext]
  | _ => rfl

theorem step_pinned_iff (c : Conductor) (step : ScenarioStep) :
    (∀ (σ : Type) (rig : Rig σ) (label : String) (timing : ReplayTiming),
      c.step rig label timing step = c.pinned.step rig label timing step) ↔
    (step.Executes → c.ExecutesAlike) := by
  constructor
  · rintro hstep ⟨t, rfl⟩
    have hplay : play Scripted.rig (Typing.textAndExecute c.encoder t) =
        play Scripted.rig (Typing.textAndExecute c.pinned.encoder t) :=
      hstep Scripted Scripted.rig "" ⟨0, 0⟩
    have hperform (script : Script) : script.perform Scripted.rig =
        (do let _ ← play Scripted.rig script; return ()) := by simp [play]
    have hsame : (Typing.textAndExecute c.encoder t).perform Scripted.rig =
        (Typing.textAndExecute c.pinned.encoder t).perform Scripted.rig := by
      rw [hperform, hplay, ← hperform]
    rw [Typing.textAndExecute_eq, Typing.textAndExecute_eq] at hsame
    exact Scripted.encoded_of_perform hsame
  · intro h σ rig label timing
    exact c.step_pinned h rig label timing

/-! ## Scenarios -/

section Scenarios

variable (c : Conductor)

theorem steps_pinned {steps : List ScenarioStep}
    (h : ∀ step ∈ steps, step.Executes → c.ExecutesAlike) (rig : Rig σ) (label : String)
    (timing : ReplayTiming) (number : Nat) :
    c.steps rig label timing number steps = c.pinned.steps rig label timing number steps := by
  induction steps generalizing number with
  | nil => rfl
  | cons next rest ih =>
    obtain ⟨hnext, hrest⟩ := List.forall_mem_cons.mp h
    rw [Conductor.steps, Conductor.steps, c.step_pinned hnext, ih hrest]

theorem perform_pinned {s : Scenario} (h : ∀ step ∈ s.steps, step.Executes → c.ExecutesAlike)
    (rig : Rig σ) : c.perform rig s = c.pinned.perform rig s :=
  c.steps_pinned h rig s.label s.head.timing 0

theorem performIn_pinned {s : Scenario} (h : ∀ step ∈ s.steps, step.Executes → c.ExecutesAlike)
    (launcher : Launcher σ) (level : Int) :
    c.performIn launcher level s = c.pinned.performIn launcher level s := by
  unfold performIn
  refine bind_congr fun rig => ?_
  rw [c.perform_pinned h]

/-- A step encodes every key press under the modes of the conductor exactly if it does not run a
typed text, or the key press for that has the same encoding under the default modes. So does the run
of a scenario, on a terminal that is there or on one started for it, if all its steps do. -/
theorem run_pinned :
    (∀ step : ScenarioStep,
      (∀ (σ : Type) (rig : Rig σ) (label : String) (timing : ReplayTiming),
        c.step rig label timing step = c.pinned.step rig label timing step) ↔
      (step.Executes → c.ExecutesAlike)) ∧
    ∀ (files : FileStore) (source : Scenario.Source),
      (∀ s, Scenario.load files c.settings source c.documentDepth = .ok s →
        ∀ step ∈ s.steps, step.Executes → c.ExecutesAlike) →
      ∀ σ : Type,
        (∀ rig : Rig σ, c.runOn rig files source = c.pinned.runOn rig files source) ∧
        ∀ launcher : Launcher σ,
          c.runIn launcher files source = c.pinned.runIn launcher files source := by
  refine ⟨c.step_pinned_iff, fun files source h σ => ⟨fun rig => ?_, fun launcher => ?_⟩⟩
  · refine bind_congr fun level => Act.settle_bind_congr fun s hs => ?_
    rw [c.perform_pinned (h s hs)]
  · refine bind_congr fun level => Act.settle_bind_congr fun s hs => ?_
    rw [c.performIn_pinned (h s hs)]

end Scenarios

/-- A conductor for legacy terminals. -/
def sampleConductor : Conductor where
  settings := {}
  modes := { encoding := .legacy }
  encoder := .standard

theorem run_pinned_sampleConductor :
    sampleConductor.ExecutesAlike ∧
      ∀ (files : FileStore) (source : Scenario.Source) (σ : Type),
        (∀ rig : Rig σ,
          sampleConductor.runOn rig files source = sampleConductor.pinned.runOn rig files source) ∧
        ∀ launcher : Launcher σ, sampleConductor.runIn launcher files source =
          sampleConductor.pinned.runIn launcher files source :=
  ⟨rfl, fun files source => (run_pinned sampleConductor).2 files source fun _ _ _ _ _ => rfl⟩

/-- With the encoding that terminals use, the modes that have encodings at all are those under which
the key press that runs a typed text is encoded as under the default modes. -/
theorem executesAlike_standard_iff (settings : Settings) (modes : KeyModes) :
    ({ settings, modes, encoder := .standard } : Conductor).ExecutesAlike ↔
      KeyEncoder.checkModes modes = .ok () := by
  have hdefault : KeyEncoder.standard Typing.execute.key Typing.execute.mods {} = .ok ['\n'] := rfl
  unfold ExecutesAlike
  simp only [hdefault]
  unfold KeyEncoder.standard
  cases hcheck : KeyEncoder.checkModes modes with
  | error error => exact iff_of_false (fun h => by cases h) (fun h => by cases h)
  | ok _ => exact iff_of_true rfl rfl

/-- An encoder that sends the name of the family of escape sequences that it is asked for. -/
def familyName : KeyEncoder := fun _ _ modes =>
  .ok (match modes.encoding with
    | .legacy => "legacy".toList
    | .kitty => "kitty".toList)

/-- A scenario that runs a typed text. -/
def sampleScenario : Scenario where
  head := ⟨["sh".toList], none, [], {}, ⟨0, 0⟩, 5, none⟩
  steps := [.text "ls".toList true]
  name := none
  description := none

/-- A scripted terminal is last sent the encoding under the default modes. -/
theorem lastSent_perform {c : Conductor} {s : Scenario} {t text : Text}
    (hsteps : s.steps = [.text t true])
    (h : c.encoder Typing.execute.key Typing.execute.mods {} = .ok text) (start : Scripted) :
    ((c.perform Scripted.rig s).run.run start).2.done.head? = some (.sent text) := by
  -- writing to the log leaves the terminal in some state
  obtain ⟨s₁, hs₁⟩ : ∃ s₁, (Scripted.rig.log (.debug "orchestrator"
      s!"{s.label} step {0}: {(ScenarioStep.text t true).kind}")).run.run start = (.ok (), s₁) :=
    ⟨_, rfl⟩
  obtain ⟨s₂, hs₂⟩ := Scripted.perform_sendEncoded (Typing.text 0 t).actions s₁
  have hstep : (c.step Scripted.rig s.label s.head.timing (.text t true)).run.run s₁ =
      (.ok {}, { s₂ with done := .sent text :: s₂.done }) := by
    have hsent : ((Typing.textAndExecute c.encoder t).perform Scripted.rig).run.run s₁ =
        (.ok (), { s₂ with done := .sent text :: s₂.done }) := by
      rw [Typing.textAndExecute_eq, h]
      exact hs₂ (.ok text)
    exact Act.run_bind_of_ok hsent
  rw [perform, hsteps, Conductor.steps, Act.run_bind_of_ok hs₁, Act.run_bind_of_ok hstep]
  rfl

/-- The key press that runs a typed text is not encoded under the modes of the conductor. -/
theorem perform_not_pinned : ¬ ∀ (c : Conductor) (rig : Rig Scripted) (s : Scenario),
    c.perform rig s = c.pinned.perform rig s := by
  intro h
  let c : Conductor := { sampleConductor with encoder := familyName }
  let start : Scripted := { screens := [], tick := 0 }
  have hcode := lastSent_perform (c := c) (s := sampleScenario) rfl rfl start
  have hclaim := lastSent_perform (c := c.pinned) (s := sampleScenario) rfl rfl start
  rw [← h, hcode] at hclaim
  revert hclaim
  simp [c, sampleConductor]

end Conductor

end TermPilot
