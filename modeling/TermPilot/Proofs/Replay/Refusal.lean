import TermPilot.Keys.Probe
import TermPilot.Proofs.Replay.Events
import TermPilot.Proofs.Terminal.Scripted

/-!
# A replay that is stopped by its encoder

When the encoder refuses a key, the replay ends with its error. The events in front of the batch
have been sent as in any other replay; of the batch itself the keys in front of the refused one have
been sent if the keys are sent one by one, and nothing otherwise. Nothing behind the refused key is
done, and there is no pause after the batch. Whether a key is refused may depend on all keys in
front of it, since an encoder may remember what it was asked.
-/

namespace TermPilot.Replay

open Recording (keysOf)
open Typing (Encodes)

variable {τ σ : Type} {encoder : RecallingEncoder τ} {modes : KeyModes} {timing : ReplayTiming}
  {m : τ} {recorded before : List RecordedEvent} {found : List (Text × Option Text)}
  {error : KeyEncodingError}

/-- An encoder that remembers `m` refuses a key for the first time. Behind the events `before`, the
positions of which can be written, there is a batch in which the names in front of the refused key
are found to have the given encodings. All names in front are looked up and encoded in order, since
otherwise the replay would have ended before this key. -/
structure RefusesAt (encoder : RecallingEncoder τ) (modes : KeyModes) (m : τ)
    (recorded before : List RecordedEvent) (found : List (Text × Option Text))
    (error : KeyEncodingError) : Prop where
  positions : ∀ e ∈ before, ¬ HasOverlongPosition e
  refused : ∃ names name rest after press others m₁ m₂ m₃,
    recorded = before ++ .keys (names ++ name :: rest) :: after ∧
    Encodes encoder modes m (before.flatMap keysOf) others m₁ ∧
    Encodes encoder modes m₁ names found m₂ ∧
    KeyPress.ofName? name = .ok (some press) ∧
    (encoder press.key press.mods modes).run m₂ = (.error error, m₃)

/-- What becomes of a replay whose encoder refuses a key. -/
theorem RefusesAt.run_eventsWith (h : RefusesAt encoder modes m recorded before found error)
    (timing : ReplayTiming) :
    ∃ (script : Script) (m₁ m₃ : τ), script.failure = none ∧
      (eventsWith encoder modes timing before).run m = (script, m₁) ∧
      (eventsWith encoder modes timing recorded).run m =
        (script.andThen (batch timing { found, failure := some (.encoding error) }), m₃) := by
  obtain ⟨names, name, rest, after, press, others, m₁, m₂, m₃, rfl, hbefore, hnames, hname,
    hrefused⟩ := h.refused
  have hask : (Typing.askName encoder modes name).run m₂ = (.error (.encoding error), m₃) :=
    Typing.run_askName_eq_encoding_iff.mpr ⟨press, hname, hrefused⟩
  obtain ⟨script, hnone, hrun, happend⟩ := run_eventsWith_append timing
    (.keys (names ++ name :: rest) :: after) h.positions hbefore
  refine ⟨script, m₁, m₃, hnone, hrun, ?_⟩
  rw [happend, run_eventsWith_cons (run_eventWith_of_stopped timing hnames hask), failure_batch]
  rfl

/-- A key that is refused behind an event is refused in a replay that begins with this event. -/
theorem RefusesAt.cons {e : RecordedEvent} {others : List (Text × Option Text)} {m₁ : τ}
    (hposition : ¬ HasOverlongPosition e)
    (hkeys : Encodes encoder modes m (keysOf e) others m₁)
    (h : RefusesAt encoder modes m₁ recorded before found error) :
    RefusesAt encoder modes m (e :: recorded) (e :: before) found error := by
  obtain ⟨names, name, rest, after, press, met, m₂, m₃, m₄, rfl, hbefore, hrest⟩ := h.refused
  exact ⟨List.forall_mem_cons.mpr ⟨hposition, h.positions⟩, names, name, rest, after, press, _, m₂,
    m₃, m₄, rfl, hkeys.append hbefore, hrest⟩

/-- A replay ends with an error of the encoder exactly if the encoder refuses a key. -/
theorem failure_eventsWith_eq_encoding_iff :
    ((eventsWith encoder modes timing recorded).run m).1.failure = some (.encoding error) ↔
      ∃ before found, RefusesAt encoder modes m recorded before found error := by
  constructor
  · intro hfailure
    induction recorded generalizing m with
    | nil => cases hfailure
    | cons e later ih =>
      rcases run_eventWith_cases encoder modes timing m e with
        ⟨others, m₁, hkeys, hposition⟩ | ⟨number, hrun⟩ | hstops
      · obtain ⟨script, hrun, hnone⟩ := run_eventWith_of_encodes timing hposition hkeys
        rw [run_eventsWith_cons hrun, hnone] at hfailure
        have hlater : ((eventsWith encoder modes timing later).run m₁).1.failure =
            some (.encoding error) := by
          rw [← hfailure, Prod.map_fst, Script.andThen, hnone]
        obtain ⟨before, found, hrefuses⟩ := ih hlater
        exact ⟨e :: before, found, hrefuses.cons hposition hkeys⟩
      · rw [run_eventsWith_cons hrun] at hfailure
        cases hfailure
      · obtain ⟨front, name, rest, found, m₁, fault, m₂, rfl, hfront, hask⟩ := hstops
        rw [run_eventsWith_cons (run_eventWith_of_stopped timing hfront hask),
          failure_batch] at hfailure
        obtain rfl : fault = .encoding error := by
          have hfault : (batch timing { found, failure := some fault }).failure =
            some (.encoding error) := hfailure
          rw [failure_batch] at hfault
          exact Option.some.inj hfault
        obtain ⟨press, hpress, hrefused⟩ := Typing.run_askName_eq_encoding_iff.mp hask
        exact ⟨[], found, List.forall_mem_nil _, front, name, rest, later, press, [], m, m₁, m₂,
          rfl, .nil m, hfront, hpress, hrefused⟩
  · rintro ⟨before, found, hrefuses⟩
    obtain ⟨script, m₁, m₃, hnone, -, hrun⟩ := hrefuses.run_eventsWith timing
    rw [hrun, Script.andThen, hnone]
    exact failure_batch timing _

/-! ## What is done -/

/-- What is done with a name in front of a refused key. The key is sent only if the keys of a batch
are sent one by one; a name that stands for no key press is told to the log in any case. -/
def doInFront (rig : Rig σ) (timing : ReplayTiming) : Text × Option Text → Act Fault σ Unit
  | (name, none) => rig.log (Typing.unresolved name)
  | (_, some text) =>
    if timing.keyDelay == 0 then return ()
    else do
      rig.send text
      rig.sleep timing.keyDelay

theorem forM_leftOut (rig : Rig σ) (h : (timing.keyDelay == 0) = true)
    (found : List (Text × Option Text)) :
    (leftOut found).forM (Action.perform rig) = found.forM (doInFront rig timing) := by
  induction found with
  | nil => rfl
  | cons first rest ih =>
    obtain ⟨name, _ | text⟩ := first
    · show (do rig.log (Typing.unresolved name); (leftOut rest).forM (Action.perform rig)) = _
      rw [ih]
      rfl
    · show (leftOut rest).forM (Action.perform rig) = _
      rw [ih]
      simp [doInFront, h]

theorem forM_keyActions (rig : Rig σ) (h : (timing.keyDelay == 0) = false)
    (found : List (Text × Option Text)) :
    (found.flatMap (keyActions timing.keyDelay)).forM (Action.perform rig) =
      found.forM (doInFront rig timing) := by
  induction found with
  | nil => rfl
  | cons first rest ih =>
    rw [List.forM_eq_forM] at ih ⊢
    rw [List.flatMap_cons, List.forM_append, ih, List.forM_eq_forM, List.forM_cons]
    congr 1
    obtain ⟨name, _ | text⟩ := first
    · simp [keyActions, doInFront, Action.perform]
    · simp [keyActions, doInFront, Action.perform, h]

theorem perform_batch_of_refused (rig : Rig σ) (timing : ReplayTiming)
    (found : List (Text × Option Text)) (fault : Fault) :
    (batch timing { found, failure := some fault }).perform rig = (do
      found.forM (doInFront rig timing)
      throw fault) := by
  rw [batch_of_failure rfl, Script.perform]
  dsimp only
  congr 1
  cases hzero : timing.keyDelay == 0 with
  | true => exact forM_leftOut rig hzero found
  | false => exact forM_keyActions rig hzero found

/-- A scripted terminal is sent the keys in front, each with its pause, or nothing. -/
theorem exists_run_doInFront (timing : ReplayTiming) (found : List (Text × Option Text))
    (s : Scripted) :
    ∃ s', (found.forM (doInFront Scripted.rig timing)).run.run s = (.ok (), s') ∧
      s'.done = ((if timing.keyDelay == 0 then [] else
        spacedKeys timing.keyDelay (found.filterMap Prod.snd)).filterMap
          Scripted.eventOf?).reverse ++ s.done := by
  cases hzero : timing.keyDelay == 0 with
  | true =>
    obtain ⟨s', hrun, hdone⟩ := Scripted.exists_perform (leftOut found) s
    rw [← Scripted.filterMap_eventOf?, filter_leftOut] at hdone
    rw [← forM_leftOut _ hzero]
    exact ⟨s', hrun, hdone⟩
  | false =>
    obtain ⟨s', hrun, hdone⟩ :=
      Scripted.exists_perform (found.flatMap (keyActions timing.keyDelay)) s
    rw [← Scripted.filterMap_eventOf?, filter_keyActions] at hdone
    rw [← forM_keyActions _ hzero]
    exact ⟨s', hrun, hdone⟩

/-- A refused key ends the replay with the error of the encoder. Up to there the events in front are
replayed and, if the keys of a batch are sent one by one, the keys in front, each with its pause. -/
theorem events_refusal (encoder : RecallingEncoder τ) (modes : KeyModes) (timing : ReplayTiming)
    (m : τ) (recorded : List RecordedEvent) (error : KeyEncodingError) :
    (((eventsWith encoder modes timing recorded).run m).1.failure = some (.encoding error) ↔
        ∃ before found, RefusesAt encoder modes m recorded before found error) ∧
      ∀ before found, RefusesAt encoder modes m recorded before found error →
        ((eventsWith encoder modes timing before).run m).1.failure = none ∧
          ∀ (σ : Type) (rig : Rig σ),
            ((eventsWith encoder modes timing recorded).run m).1.perform rig = (do
              ((eventsWith encoder modes timing before).run m).1.perform rig
              found.forM (doInFront rig timing)
              throw (.encoding error)) := by
  refine ⟨failure_eventsWith_eq_encoding_iff, fun before found hrefuses => ?_⟩
  obtain ⟨script, m₁, m₃, hnone, hbefore, hrun⟩ := hrefuses.run_eventsWith timing
  rw [hbefore, hrun]
  refine ⟨hnone, fun σ rig => ?_⟩
  rw [Script.perform_andThen, perform_batch_of_refused]

/-- A size, a batch with an unknown name and a key that is held twice, and an event behind it. -/
def refusedSession : List RecordedEvent :=
  [.resize 80 24, .keys ["a".toList, "nokey".toList, "a".toList, "b".toList], .focus true]

/-- An encoder that answers only once refuses a key that it has answered. -/
theorem events_refusal_refusedSession :
    RefusesAt KeyEncoder.rationed {} 1 refusedSession [.resize 80 24]
        [("a".toList, some "<a||kitty>".toList), ("nokey".toList, none)] (.rejected "a".toList) ∧
      ∀ (timing : ReplayTiming) (s : Scripted),
        ((((eventsWith KeyEncoder.rationed {} timing refusedSession).run 1).1.perform
          Scripted.rig).run.run s).1 = .error (.encoding (.rejected "a".toList)) ∧
        ((((eventsWith KeyEncoder.rationed {} timing refusedSession).run 1).1.perform
          Scripted.rig).run.run s).2.done =
            (if timing.keyDelay == 0 then [] else
              [.slept timing.keyDelay, .sent "<a||kitty>".toList]) ++ .resized 80 24 :: s.done := by
  have hpress : KeyPress.ofName? "a".toList = .ok (some ⟨.char ['a'], {}⟩) := rfl
  have hanswer : (KeyEncoder.rationed (.char ['a']) {} {}).run 1 =
      (.ok "<a||kitty>".toList, 0) := rfl
  have hrefuses : RefusesAt KeyEncoder.rationed {} 1 refusedSession [.resize 80 24]
      [("a".toList, some "<a||kitty>".toList), ("nokey".toList, none)] (.rejected "a".toList) :=
    ⟨by decide, ["a".toList, "nokey".toList], "a".toList, ["b".toList], [.focus true], _, [], 1, 0,
      0, rfl, .nil 1, .encoded hpress hanswer (.unresolved rfl (.nil 0)), hpress, rfl⟩
  refine ⟨hrefuses, fun timing s => ?_⟩
  rw [((events_refusal KeyEncoder.rationed {} timing 1 refusedSession _).2 _ _ hrefuses).2]
  have hresize : (((eventsWith KeyEncoder.rationed {} timing [.resize 80 24]).run 1).1.perform
      Scripted.rig).run.run s = (.ok (), { s with done := .resized 80 24 :: s.done }) := rfl
  obtain ⟨s', hfront, hdone⟩ := exists_run_doInFront timing
    [("a".toList, some "<a||kitty>".toList), ("nokey".toList, none)]
    { s with done := .resized 80 24 :: s.done }
  rw [Act.run_bind_of_ok hresize, Act.run_bind_of_ok hfront]
  refine ⟨rfl, hdone.trans ?_⟩
  cases timing.keyDelay == 0 <;> rfl

end TermPilot.Replay
