import TermPilot.Proofs.Keys.Line
import TermPilot.Proofs.Replay.Events
import TermPilot.Scenario.Run

/-!
# Keys pressed and keys replayed

Keys can be given to a scenario by name, or as a recording with their names on its lines. The two
kinds of step take different ways, which meet in the encodings of the keys: one step sends each
encoding on its own, the other reads the lines into a batch and sends the batch as its timing says.
-/

namespace TermPilot

open KeyPress (IsRecordable)
open Recording (Fails fails_error not_fails_ok)
open Typing (Accepts encodeName encodings failure_encodings_eq_none_iff fails_encodeName_iff
  keyText? keyTexts keyTexts_cons texts_encodings)

section Encodings

variable {encoder : KeyEncoder} {modes : KeyModes} {names : List Text}

/-- A name that stands for a key press does not fail where its key press can be encoded. -/
theorem KeyPress.IsRecordable.not_fails_encodeName {name : Text} (h : IsRecordable name)
    (haccepts : Accepts encoder modes name) : ¬ Fails (encodeName encoder modes name) := by
  obtain ⟨press, hpress⟩ := h.resolves
  rw [fails_encodeName_iff haccepts, ← KeyPress.fails_ofName?_iff, hpress]
  exact not_fails_ok _

/-- Names without blanks and comments are read from the lines that they stand on as one batch. -/
theorem Recording.read_names (h : ∀ name ∈ names, IsRecordable name) :
    read (Text.join ['\n'] names) = { warnings := [], events := .ok (batchEvent names) } := by
  by_cases hnil : names = []
  · subst hnil
    rfl
  · have hkeys : ∀ name ∈ names, IsKeyName name := fun name hname => (h name hname).isKeyName
    have hlines : ∀ line ∈ names, Text.trim line = line ∧ '\n' ∉ line :=
      fun line hline => ⟨(hkeys line hline).trimmed, (hkeys line hline).oneLine⟩
    have hread := readLines_names hkeys 1 [] []
    rw [List.append_nil, List.nil_append] at hread
    rw [read_join hlines hnil, hread, readLines]

/-- The batch of the names sends their encodings, whatever the timing of its pauses. -/
theorem Replay.events_batchEvent (h : ∀ name ∈ names, ¬ Fails (encodeName encoder modes name))
    (timing : ReplayTiming) :
    (events encoder modes timing (Recording.batchEvent names)).failure = none ∧
      (events encoder modes timing (Recording.batchEvent names)).texts.flatten =
        (keyTexts encoder modes names).flatten := by
  by_cases hnil : names = []
  · subst hnil
    exact ⟨rfl, rfl⟩
  · have hnone : (encodings encoder modes names).failure = none :=
      failure_encodings_eq_none_iff.mpr h
    rw [Recording.batchEvent_of_ne_nil hnil, events_singleton, event_keys, failure_batch,
      Script.texts_eq, effects_batch hnone, texts_batchEffects, texts_encodings h]
    exact ⟨hnone, rfl⟩

end Encodings

namespace Conductor

variable (c : Conductor) {names : List Text}

/-- On every terminal the step does what the script says, and leaves neither a screen nor a
warning. -/
def Plays (timing : ReplayTiming) (step : ScenarioStep) (script : Script) : Prop :=
  ∀ (σ : Type) (rig : Rig σ) (label : String), c.step rig label timing step = play rig script

/-- Keys that can be encoded are pressed by sending their encodings one by one. -/
theorem keys_eq (h : ∀ name ∈ names, IsRecordable name)
    (haccepts : ∀ name ∈ names, Accepts c.encoder c.modes name) :
    c.keys names = .of ((keyTexts c.encoder c.modes names).map .send) := by
  induction names with
  | nil => rfl
  | cons name names ih =>
    obtain ⟨hname, hnames⟩ := List.forall_mem_cons.mp h
    obtain ⟨haccept, hrest⟩ := List.forall_mem_cons.mp haccepts
    obtain ⟨press, hpress⟩ := hname.resolves
    cases hencoded : c.encoder press.key press.mods c.modes with
    | error error =>
      have hfails := haccept press hpress
      rw [hencoded] at hfails
      exact absurd (fails_error error) hfails
    | ok text =>
      have hkey : keyText? c.encoder c.modes name = some text := by
        rw [keyText?, hpress]
        simp only [hencoded]
        rfl
      have htail := ih hnames hrest
      rw [keys] at htail
      rw [keys, List.map_cons, Script.sequence, htail, hpress, keyTexts_cons, hkey]
      simp only [hencoded]
      rfl

theorem plays_keys (timing : ReplayTiming) (names : List Text) :
    c.Plays timing (.keys names) (c.keys names) := fun _ _ _ => rfl

/-- A recording that is read without warnings is replayed as its events. -/
theorem plays_replay {recording : Text} {recorded : List RecordedEvent}
    (h : Recording.read recording = { warnings := [], events := .ok recorded })
    (timing : ReplayTiming) (own : Option ReplayTiming) :
    c.Plays timing (.replay recording own)
      (Replay.events c.encoder c.modes (own.getD timing) recorded) := by
  intro σ rig label
  rw [step, h]
  rfl

/-- Keys pressed by their names, and keys replayed from a recording of these names, are the same
characters for the terminal, whatever the timing, provided that the names stand for keys that can be
encoded and have neither blanks around them nor the mark of a comment in front. -/
theorem keys_eq_replay (h : ∀ name ∈ names, IsRecordable name)
    (haccepts : ∀ name ∈ names, Accepts c.encoder c.modes name) (timing : ReplayTiming)
    (own : Option ReplayTiming) :
    (Recording.read (Text.join ['\n'] names)).warnings = [] ∧
      ∃ pressed replayed : Script, c.Plays timing (.keys names) pressed ∧
        c.Plays timing (.replay (Text.join ['\n'] names) own) replayed ∧
        pressed.failure = none ∧ replayed.failure = none ∧
        pressed.texts = keyTexts c.encoder c.modes names ∧
        pressed.texts.flatten = replayed.texts.flatten := by
  have hread := Recording.read_names h
  have hencoded : ∀ name ∈ names, ¬ Fails (encodeName c.encoder c.modes name) :=
    fun name hname => (h name hname).not_fails_encodeName (haccepts name hname)
  obtain ⟨hfailure, htexts⟩ := Replay.events_batchEvent hencoded (own.getD timing)
  have hpressed : (c.keys names).texts = keyTexts c.encoder c.modes names := by
    rw [c.keys_eq h haccepts, Script.texts, Script.of, List.filterMap_map]
    exact List.filterMap_some
  refine ⟨by rw [hread], c.keys names, _, c.plays_keys timing names,
    c.plays_replay hread timing own, ?_, hfailure, hpressed, ?_⟩
  · rw [c.keys_eq h haccepts]
    rfl
  · rw [hpressed, htexts]

/-- Names of each form, among them one that ends like the beginning of a directive and one that is a
word that directives begin with. -/
def sampleNames : List Text :=
  ["a", "C-x", "C-:", ":", "A-S-tab", "f5", "C-#", "é"].map String.toList

/-- A conductor that knows nothing but defaults. -/
def plain : Conductor where
  settings := {}
  modes := {}
  encoder := .standard

theorem keys_eq_replay_sampleNames :
    (∀ name ∈ sampleNames, IsRecordable name) ∧
      (∀ name ∈ sampleNames, Accepts .standard {} name) ∧
      ∀ (timing : ReplayTiming) (own : Option ReplayTiming),
        (Recording.read (Text.join ['\n'] sampleNames)).warnings = [] ∧
          ∃ pressed replayed : Script,
            plain.Plays timing (.keys sampleNames) pressed ∧
            plain.Plays timing (.replay (Text.join ['\n'] sampleNames) own) replayed ∧
            pressed.failure = none ∧ replayed.failure = none ∧
            pressed.texts = keyTexts .standard {} sampleNames ∧
            pressed.texts.flatten = replayed.texts.flatten :=
  ⟨by decide, by decide, keys_eq_replay plain (by decide) (by decide)⟩

end Conductor

end TermPilot
