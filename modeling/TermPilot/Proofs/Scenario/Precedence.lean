import TermPilot.Proofs.Scenario.Load
import TermPilot.Proofs.Settings.Environment
import TermPilot.Scenario.Run

/-!
# Which settings a step is run with

A duration can be given by a step, by the head of its scenario, by the environment and by the
settings. The first of them that gives it decides, also if it gives zero, and a record of pauses
decides on both of them. Once this is decided, the run looks at nothing else in the settings but the
time between two looks at the screen.
-/

namespace TermPilot

open Recording (bind_eq_ok)

/-- The variable gives the number of seconds; or it is missing or empty, and the default does. -/
def Environment.Gives (e : Environment) (name : String) (default seconds : Float) : Prop :=
  (∃ value, e.get? name = some value ∧ value ≠ [] ∧ Numeral.real? value = some seconds) ∨
    (¬ e.Sets name ∧ seconds = default)

/-- The step with its pauses written into it. -/
def ScenarioStep.withTiming (timing : ReplayTiming) : ScenarioStep → ScenarioStep
  | .replay recording own => .replay recording (some (own.getD timing))
  | step => step

namespace Scenario

/-- The steps with the pauses that they are taken with. -/
def settledSteps (s : Scenario) : List ScenarioStep := s.steps.map (·.withTiming s.head.timing)

/-! ## Who decides -/

section Precedence

variable (c : Settings) (e : Environment) (head payload : Json)

/-- The number of seconds that a wait may take if it does not say so itself. -/
def IsCommonWaitTime (seconds : Float) : Prop :=
  Has head "wait_timeout" (·.seconds = .ok seconds)
    (e.Gives "TERM_HARNESS_WAIT_TIMEOUT" c.waitTimeout seconds)

/-- The pauses of a replay that has none of its own. -/
def IsCommonTiming (timing : ReplayTiming) : Prop :=
  Has head "timing" (IsTiming · timing)
    (e.Gives "TERM_HARNESS_BATCH_PAUSE" c.batchPause timing.batchPause ∧
      e.Gives "TERM_HARNESS_KEY_DELAY" c.keyDelay timing.keyDelay)

/-- The number of seconds that a wait may take. -/
def IsWaitTime (seconds : Float) : Prop :=
  Has payload "timeout" (·.seconds = .ok seconds) (IsCommonWaitTime c e head seconds)

/-- The pauses of a replay. -/
def IsReplayTiming (timing : ReplayTiming) : Prop :=
  Has payload "timing" (IsTiming · timing) (IsCommonTiming c e head timing)

/-- The size that the terminal is started with. -/
def IsTerminal (size : TerminalSize) : Prop :=
  Has head "terminal" (IsSize · size) (size = c.terminal)

/-- The step is of the kind that the record names, and has the durations that are decided on. -/
inductive IsSettled : ScenarioStep → Prop
  | replay (recording : Text) (timing : ReplayTiming)
    (type : payload.get? "type" = some (.str "replay".toList))
    (htiming : IsReplayTiming c e head payload timing) :
    IsSettled (.replay recording (some timing))
  | wait (expectation : Expectation) (timeout : Float)
    (type : payload.get? "type" = some (.str "wait".toList))
    (htimeout : IsWaitTime c e head payload timeout) : IsSettled (.wait expectation timeout)
  | keys (names : List Text) (type : payload.get? "type" = some (.str "keys".toList)) :
    IsSettled (.keys names)
  | text (t : Text) (execute : Bool) (type : payload.get? "type" = some (.str "text".toList)) :
    IsSettled (.text t execute)
  | snapshot (label : Text) (type : payload.get? "type" = some (.str "snapshot".toList)) :
    IsSettled (.snapshot label)
  | resize (rows cols : Int) (type : payload.get? "type" = some (.str "resize".toList)) :
    IsSettled (.resize rows cols)

end Precedence

/-! ## What the environment gives -/

section Given

variable {c t : Settings} {e : Environment}

theorem gives_of_seconds {name : String} {given : Option Float}
    (h : Overrides.seconds e name = .ok given) (default : Float) :
    e.Gives name default (given.getD default) := by
  rcases Overrides.seconds_eq_ok h with ⟨hsets, rfl⟩ | ⟨value, x, hget, hne, hreal, -, rfl⟩
  · exact Or.inr ⟨hsets, rfl⟩
  · exact Or.inl ⟨value, hget, hne, hreal⟩

/-- What the environment makes of settings: of durations it gives some, and nothing else changes
but the level of the log. -/
structure IsGiven (c : Settings) (e : Environment) (t : Settings) : Prop where
  batchPause : e.Gives "TERM_HARNESS_BATCH_PAUSE" c.batchPause t.batchPause
  keyDelay : e.Gives "TERM_HARNESS_KEY_DELAY" c.keyDelay t.keyDelay
  waitTimeout : e.Gives "TERM_HARNESS_WAIT_TIMEOUT" c.waitTimeout t.waitTimeout
  pollInterval : t.pollInterval = c.pollInterval
  terminal : t.terminal = c.terminal

theorem isGiven_of_inEnvironment (h : c.inEnvironment e = .ok t) : IsGiven c e t := by
  obtain ⟨o, hkey, hbatch, hwait, rfl⟩ := Settings.inEnvironment_eq_ok h
  exact ⟨gives_of_seconds hbatch _, gives_of_seconds hkey _, gives_of_seconds hwait _, rfl, rfl⟩

end Given

/-! ## The head -/

section Head

variable {c t : Settings} {e : Environment} {payload : Json} {head : ScenarioMeta}

theorem timing_eq_ok {timing : ReplayTiming} (h : t.timing = .ok timing) :
    timing = ⟨t.batchPause, t.keyDelay⟩ := by
  rw [Settings.timing, ReplayTiming.make] at h
  split_ifs at h
  exact (Except.ok.inj h).symm

/-- What the head of a loaded scenario has for all of its steps. -/
structure IsSettledHead (c : Settings) (e : Environment) (payload : Json) (head : ScenarioMeta) :
    Prop where
  terminal : IsTerminal c payload head.terminal
  timing : IsCommonTiming c e payload head.timing
  waitTimeout : IsCommonWaitTime c e payload head.waitTimeout

theorem isSettledHead_of_metaOf (hgiven : IsGiven c e t)
    (h : Schema.scenarioMeta.accepts payload = true) (hok : metaOf payload t = .ok head) :
    IsSettledHead c e payload head := by
  have hterminal : ∀ v, payload.get? "terminal" = some v → Schema.terminalSize.accepts v = true :=
    fun v hv => Schema.accepts_member h (by simp) hv
  have htiming : ∀ v, payload.get? "timing" = some v → Schema.timing.accepts v = true :=
    fun v hv => Schema.accepts_member h (by simp) hv
  have hwait : ∀ v, payload.get? "wait_timeout" = some v → Schema.seconds.accepts v = true :=
    fun v hv => Schema.accepts_member h (by simp) hv
  rw [metaOf] at hok
  obtain ⟨terminal, hterminalOk, hok⟩ := bind_eq_ok.mp hok
  obtain ⟨own, hown, hok⟩ := bind_eq_ok.mp hok
  have hown' := (loads_timingOf? htiming).of_eq_ok hown
  -- the pauses of the head, or else those of the settings
  obtain ⟨timing, hcommon, hok⟩ : ∃ timing, IsCommonTiming c e payload timing ∧
      (payload.secondsOr "wait_timeout" t.waitTimeout >>= fun waitTimeout => .ok {
        command := textsOf payload "command"
        cwd := (textOf? payload "cwd").map Path.ofText
        env := (((payload.get? "env").bind Json.members?).getD []).filterMap
          fun member => member.2.text?.map fun t => (member.1, t)
        terminal, timing, waitTimeout
        identifier := textOf? payload "id" }) = .ok head := by
    cases own with
    | some timing =>
      refine ⟨timing, hown'.imp ?_ ?_, hok⟩
      · rintro v ⟨given, hgiven, his⟩
        rwa [Option.some.inj hgiven]
      · intro hnone
        cases hnone
    | none =>
      obtain ⟨timing, htimingOk, hok⟩ := bind_eq_ok.mp hok
      obtain rfl := timing_eq_ok htimingOk
      refine ⟨_, hown'.imp ?_ ?_, hok⟩
      · rintro v ⟨given, hgiven, his⟩
        cases hgiven
      · intro _
        exact ⟨hgiven.batchPause, hgiven.keyDelay⟩
  obtain ⟨waitTimeout, hwaitOk, hok⟩ := bind_eq_ok.mp hok
  obtain rfl := Except.ok.inj hok
  refine ⟨((loads_terminalSizeOr hterminal).of_eq_ok hterminalOk).imp (fun v hv => hv) ?_, hcommon,
    ((loads_secondsOr hwait).of_eq_ok hwaitOk).1.imp (fun v hv => hv) ?_⟩
  · intro hsize
    exact hsize.trans hgiven.terminal
  · rintro rfl
    exact hgiven.waitTimeout

end Head

/-! ## Steps -/

section Steps

variable {c : Settings} {e : Environment} {head payload : Json} {common : ReplayTiming}
  {waitTimeout : Float} {step : ScenarioStep}

theorem isReplayTiming_getD {own : Option ReplayTiming}
    (hown : Has payload "timing" (fun v => ∃ given, own = some given ∧ IsTiming v given)
      (own = none))
    (hcommon : IsCommonTiming c e head common) :
    IsReplayTiming c e head payload (own.getD common) := by
  refine hown.imp ?_ ?_
  · rintro v ⟨given, rfl, his⟩
    exact his
  · rintro rfl
    exact hcommon

theorem IsStep.isSettled (h : IsStep waitTimeout payload step)
    (hcommon : IsCommonTiming c e head common) (hwait : IsCommonWaitTime c e head waitTimeout) :
    IsSettled c e head payload (step.withTiming common) := by
  cases h with
  | replay recording own type _ hown =>
    exact .replay recording _ type (isReplayTiming_getD hown hcommon)
  | keys names type => exact .keys names type
  | text t execute type => exact .text t execute type
  | wait expectation timeout type _ htimeout =>
    refine .wait expectation timeout type (htimeout.imp (fun v hv => hv) ?_)
    rintro rfl
    exact hwait
  | snapshot label type => exact .snapshot label type
  | resize size type => exact .resize size.rows size.cols type

/-- A replay is settled also if its recording is in a file. -/
theorem isSettled_of_replay {files : FileStore} {base : Path}
    (h : Schema.replayStep.accepts payload = true) (hcommon : IsCommonTiming c e head common)
    (hok : stepOf files base waitTimeout payload = .ok step) :
    IsSettled c e head payload (step.withTiming common) := by
  rw [Schema.replayStep, Schema.accepts_both, Bool.and_eq_true] at h
  have htype := type_of_step h.1
  have htiming : ∀ v, payload.get? "timing" = some v → Schema.timing.accepts v = true :=
    fun v hv => accepts_member_of_step h.1 (by simp) hv
  rw [stepOf, string_of_type htype] at hok
  obtain ⟨recording, hok⟩ : ∃ recording,
      (timingOf? payload >>= fun own => .ok (.replay recording own)) = .ok step := by
    cases hrecording : textOf? payload "recording" with
    | some recording =>
      rw [hrecording] at hok
      exact ⟨recording, hok⟩
    | none =>
      rw [hrecording] at hok
      obtain ⟨recording, -, hok⟩ := bind_eq_ok.mp hok
      exact ⟨recording, hok⟩
  obtain ⟨own, hown, hok⟩ := bind_eq_ok.mp hok
  obtain rfl := Except.ok.inj hok
  exact .replay recording _ htype (isReplayTiming_getD ((loads_timingOf? htiming).of_eq_ok hown)
    hcommon)

theorem isSettled_of_stepOf {files : FileStore} {base : Path}
    (h : (Schema.oneOf [.replayStep, .keysStep, .textStep, .waitStep, .snapshotStep,
      .resizeStep]).accepts payload = true)
    (hcommon : IsCommonTiming c e head common) (hwait : IsCommonWaitTime c e head waitTimeout)
    (hok : stepOf files base waitTimeout payload = .ok step) :
    IsSettled c e head payload (step.withTiming common) := by
  obtain ⟨kind, hkind, haccepts⟩ := Schema.exists_choice h
  simp only [List.mem_cons, List.not_mem_nil, or_false] at hkind
  have hstep (hloads : StepLoads files base waitTimeout payload) :
      IsSettled c e head payload (step.withTiming common) :=
    (hloads.of_eq_ok hok).isSettled hcommon hwait
  rcases hkind with rfl | rfl | rfl | rfl | rfl | rfl
  · exact isSettled_of_replay haccepts hcommon hok
  · exact hstep (loads_keys haccepts)
  · exact hstep (loads_text haccepts)
  · exact hstep (loads_wait haccepts)
  · exact hstep (loads_snapshot haccepts)
  · exact hstep (loads_resize haccepts)

theorem forall₂_of_mapM {α β : Type} {is : α → β → Prop} {f : α → Except Fault β} {items : List α}
    {results : List β} (h : ∀ a ∈ items, ∀ b, f a = .ok b → is a b)
    (hok : items.mapM f = .ok results) : List.Forall₂ is items results := by
  induction items generalizing results with
  | nil =>
    obtain rfl := Except.ok.inj hok
    exact .nil
  | cons a items ih =>
    obtain ⟨ha, hitems⟩ := List.forall_mem_cons.mp h
    rw [List.mapM_cons] at hok
    obtain ⟨b, hb, hok⟩ := bind_eq_ok.mp hok
    obtain ⟨bs, hbs, hok⟩ := bind_eq_ok.mp hok
    obtain rfl := Except.ok.inj hok
    exact .cons (ha b hb) (ih hitems hbs)

end Steps

/-! ## Scenarios -/

section Scenarios

variable {c t : Settings} {e : Environment} {files : FileStore} {s : Scenario}

/-- The document, and else the environment and the settings, decide on the size of the terminal and
on the steps. -/
def IsSettledBy (c : Settings) (e : Environment) (data : Json) (s : Scenario) : Prop :=
  ∃ head payloads, data.get? "meta" = some head ∧ data.get? "steps" = some (.arr payloads) ∧
    IsTerminal c head s.head.terminal ∧
    List.Forall₂ (IsSettled c e head) payloads s.settledSteps

theorem isSettledBy_of_ofJson {base : Path} {data : Json} (hgiven : IsGiven c e t)
    (h : ofJson files base t data = .ok s) : IsSettledBy c e data s := by
  rw [ofJson] at h
  split_ifs at h with haccepts
  have hmeta : ∃ v, data.get? "meta" = some v ∧ Schema.scenarioMeta.accepts v = true :=
    Schema.exists_member haccepts (by simp) (by simp)
  have hsteps : ∃ v, data.get? "steps" = some v ∧
      (Schema.list (.oneOf [.replayStep, .keysStep, .textStep, .waitStep, .snapshotStep,
        .resizeStep]) 1).accepts v = true := Schema.exists_member haccepts (by simp) (by simp)
  obtain ⟨head, hhead, hheadAccepts⟩ := hmeta
  obtain ⟨v, hget, hv⟩ := hsteps
  obtain ⟨payloads, rfl, -, hpayloads⟩ := Schema.exists_items hv
  rw [hhead, hget] at h
  obtain ⟨parsed, hparsed, h⟩ := bind_eq_ok.mp h
  obtain ⟨steps, hsteps, h⟩ := bind_eq_ok.mp h
  obtain rfl := Except.ok.inj h
  have hsettled := isSettledHead_of_metaOf hgiven hheadAccepts hparsed
  refine ⟨head, payloads, hhead, hget, hsettled.terminal, ?_⟩
  rw [settledSteps, List.forall₂_map_right_iff]
  exact forall₂_of_mapM (fun payload hmem step hstep =>
    isSettled_of_stepOf (hpayloads payload hmem) hsettled.timing hsettled.waitTimeout hstep) hsteps

theorem isSettledBy_of_load {source : Source} {depth : Nat} (hgiven : IsGiven c e t)
    (h : load files t source depth = .ok s) :
    ∃ data, SourceOf files depth source data ∧ IsSettledBy c e data s := by
  cases source with
  | document data => exact ⟨data, .document data, isSettledBy_of_ofJson hgiven h⟩
  | file path =>
    obtain ⟨bytes, hbytes, h⟩ := bind_eq_ok.mp h
    obtain ⟨data, hdata, h⟩ := bind_eq_ok.mp h
    have hread : files.read path = .ok bytes := by
      cases hfile : files.read path with
      | error fault =>
        rw [hfile] at hbytes
        cases hbytes
      | ok found =>
        rw [hfile] at hbytes
        rw [Except.ok.inj hbytes]
    exact ⟨data, .file path bytes data hread hdata, isSettledBy_of_ofJson hgiven h⟩

end Scenarios

end Scenario

/-! ## Runs -/

namespace Conductor

variable {σ : Type} {k : Conductor} {interval : Float}

/-- The conductor with settings of its own for nothing but the time between two looks. -/
def lookingEvery (k : Conductor) (interval : Float) : Conductor :=
  { k with settings := { pollInterval := interval } }

/-- With its pauses written into it, a step needs no others, and nothing of the settings but the
time between two looks. -/
theorem step_withTiming (h : k.settings.pollInterval = interval) (rig : Rig σ) (label : String)
    (common other : ReplayTiming) (step : ScenarioStep) :
    k.step rig label common step =
      (k.lookingEvery interval).step rig label other (step.withTiming common) := by
  subst h
  cases step <;> rfl

theorem kind_withTiming (timing : ReplayTiming) (step : ScenarioStep) :
    (step.withTiming timing).kind = step.kind := by
  cases step <;> rfl

theorem steps_withTiming (h : k.settings.pollInterval = interval) (rig : Rig σ) (label : String)
    (common other : ReplayTiming) (number : Nat) (steps : List ScenarioStep) :
    k.steps rig label common number steps =
      (k.lookingEvery interval).steps rig label other number
        (steps.map (·.withTiming common)) := by
  induction steps generalizing number with
  | nil => rfl
  | cons step steps ih =>
    rw [List.map_cons, Conductor.steps, Conductor.steps, kind_withTiming, ih,
      step_withTiming h rig label common other]

theorem append_assoc (r₁ r₂ r₃ : RunResult) :
    (r₁.append r₂).append r₃ = r₁.append (r₂.append r₃) := by
  simp [RunResult.append]

theorem nothing_append (r : RunResult) : RunResult.append {} r = r := rfl

/-- A step is taken behind those in front of it and before those behind it. -/
theorem steps_append_cons (k : Conductor) (rig : Rig σ) (label : String) (timing : ReplayTiming)
    (number : Nat) (before : List ScenarioStep) (step : ScenarioStep) (after : List ScenarioStep) :
    k.steps rig label timing number (before ++ step :: after) = (do
      let earlier ← k.steps rig label timing number before
      rig.log (.debug "orchestrator" s!"{label} step {number + before.length}: {step.kind}")
      let result ← k.step rig label timing step
      let later ← k.steps rig label timing (number + before.length + 1) after
      return earlier.append (result.append later)) := by
  induction before generalizing number with
  | nil =>
    simp only [List.nil_append, Conductor.steps, pure_bind, List.length_nil, Nat.add_zero,
      nothing_append]
  | cons first rest ih =>
    have hnumber : number + 1 + rest.length = number + (first :: rest).length := by
      rw [List.length_cons]
      omega
    rw [List.cons_append, Conductor.steps, Conductor.steps, ih, hnumber]
    simp only [bind_assoc, pure_bind, append_assoc]

/-- What is done for a step by the durations that it has: a replay makes the pauses of its timing,
and a wait looks at the screen every `interval` seconds until its time is over. -/
structure Takes (k : Conductor) (rig : Rig σ) (label : String) (interval : Float)
    (step : ScenarioStep) (act : Act Fault σ RunResult) : Prop where
  replay : ∀ recording timing, step = .replay recording (some timing) → act = (do
    let reading := Recording.read recording
    (Replay.ofReading reading (Replay.events k.encoder k.modes timing)).perform rig
    return { warnings := reading.warnings })
  wait : ∀ expectation timeout, step = .wait expectation timeout → act = (do
    let expected := Text.string expectation.describe
    rig.log (.info "orchestrator" s!"{label} waiting until screen {expected}")
    let found ← Wait.forScreen rig (fun (_, clean) => expectation.isMetBy clean k.patternDepth)
      { timeout, interval }
    let _ ← Wait.orFail .screenTimeout found
    return {})

theorem takes_step (k : Conductor) (rig : Rig σ) (label : String) (other : ReplayTiming)
    (step : ScenarioStep) :
    k.Takes rig label k.settings.pollInterval step (k.step rig label other step) where
  replay := by
    rintro recording timing rfl
    rfl
  wait := by
    rintro expectation timeout rfl
    rfl

/-- A scenario that is loaded with settings in an environment has the size and the durations that
its document, the environment and the settings decide on, in this order. Its run is that of steps
which have these durations of their own: each step is taken with them, behind those in front of it,
and no other setting than the time between two looks and no common pauses are looked at. -/
theorem settled_of_load {c t : Settings} {e : Environment} {files : FileStore}
    {source : Scenario.Source} {depth : Nat} {s : Scenario} (ht : c.inEnvironment e = .ok t)
    (hs : Scenario.load files t source depth = .ok s) :
    (∃ data, Scenario.SourceOf files depth source data ∧ Scenario.IsSettledBy c e data s) ∧
    ∀ k : Conductor, k.settings = t → ∀ (σ : Type) (rig : Rig σ) (other : ReplayTiming),
      let run := (k.lookingEvery c.pollInterval).steps rig s.label other
      k.perform rig s = run 0 s.settledSteps ∧
        ∀ before step after, s.settledSteps = before ++ step :: after →
          ∃ act, k.Takes rig s.label c.pollInterval step act ∧ k.perform rig s = (do
            let earlier ← run 0 before
            rig.log (.debug "orchestrator" s!"{s.label} step {before.length}: {step.kind}")
            let result ← act
            let later ← run (before.length + 1) after
            return earlier.append (result.append later)) := by
  have hgiven := Scenario.isGiven_of_inEnvironment ht
  refine ⟨Scenario.isSettledBy_of_load hgiven hs, fun k hk σ rig other => ?_⟩
  have hinterval : k.settings.pollInterval = c.pollInterval := by
    rw [hk, hgiven.pollInterval]
  have hperform : k.perform rig s =
      (k.lookingEvery c.pollInterval).steps rig s.label other 0 s.settledSteps :=
    steps_withTiming hinterval rig s.label s.head.timing other 0 s.steps
  refine ⟨hperform, fun before step after hsplit => ?_⟩
  refine ⟨(k.lookingEvery c.pollInterval).step rig s.label other step, ?_, ?_⟩
  · obtain ⟨hreplay, hwait⟩ := takes_step (k.lookingEvery c.pollInterval) rig s.label other step
    exact ⟨hreplay, hwait⟩
  · rw [hperform, hsplit, steps_append_cons]
    simp only [Nat.zero_add]

/-- A scenario with an empty record of pauses, with a time for all of its waits and with one that a
wait has of its own. -/
def mixedDocument : Json :=
  .obj [("meta".toList, .obj [("command".toList, .arr [.str "sh".toList]),
      ("wait_timeout".toList, .int 0)]),
    ("steps".toList, .arr [
      .obj [("type".toList, .str "replay".toList), ("recording".toList, .str "key a".toList),
        ("timing".toList, .obj [])],
      .obj [("type".toList, .str "replay".toList), ("recording".toList, .str "key b".toList)],
      .obj [("type".toList, .str "wait".toList),
        ("expect".toList, .obj [("contains".toList, .str "a".toList)])],
      .obj [("type".toList, .str "wait".toList),
        ("expect".toList, .obj [("contains".toList, .str "b".toList)]),
        ("timeout".toList, .real 2.5)]])]

/-- The scenario as it is loaded where the environment sets the pause after a key. -/
def mixedScenario : Scenario where
  head := ⟨["sh".toList], none, [], {}, ⟨0, 0.5⟩, 0, none⟩
  steps := [.replay "key a".toList (some ⟨0, 0⟩), .replay "key b".toList none,
    .wait ⟨some "a".toList, none⟩ 0, .wait ⟨some "b".toList, none⟩ 2.5]
  name := none
  description := none

theorem settled_mixedScenario :
    ∃ e t, ({ pollInterval := 0.25 } : Settings).inEnvironment e = .ok t ∧
      Scenario.load ⟨.ofText "/".toList, [], []⟩ t (.document mixedDocument) = .ok mixedScenario ∧
      Scenario.IsSettledBy { pollInterval := 0.25 } e mixedDocument mixedScenario ∧
      ∀ k : Conductor, k.settings = t → ∀ (σ : Type) (rig : Rig σ) (other : ReplayTiming),
        let run := (k.lookingEvery 0.25).steps rig mixedScenario.label other
        k.perform rig mixedScenario = run 0
            [.replay "key a".toList (some ⟨0, 0⟩), .replay "key b".toList (some ⟨0, 0.5⟩),
              .wait ⟨some "a".toList, none⟩ 0, .wait ⟨some "b".toList, none⟩ 2.5] ∧
          k.perform rig mixedScenario = (do
            let earlier ← run 0 [.replay "key a".toList (some ⟨0, 0⟩)]
            rig.log (.debug "orchestrator" "scenario step 1: ReplayStep")
            let result ← (do
              let reading := Recording.read "key b".toList
              (Replay.ofReading reading
                (Replay.events k.encoder k.modes ⟨0, 0.5⟩)).perform rig
              return ({ warnings := reading.warnings } : RunResult))
            let later ← run 2
              [.wait ⟨some "a".toList, none⟩ 0, .wait ⟨some "b".toList, none⟩ 2.5]
            return earlier.append (result.append later)) := by
  let e : Environment :=
    [("TERM_HARNESS_KEY_DELAY".toList, "0.5".toList), ("TERM_HARNESS_BATCH_PAUSE".toList, [])]
  have ht : ({ pollInterval := 0.25 } : Settings).inEnvironment e =
      .ok { pollInterval := 0.25, keyDelay := 0.5 } := rfl
  have hs : Scenario.load ⟨.ofText "/".toList, [], []⟩ { pollInterval := 0.25, keyDelay := 0.5 }
      (.document mixedDocument) = .ok mixedScenario := rfl
  obtain ⟨⟨data, hsource, hsettled⟩, hrun⟩ := settled_of_load ht hs
  cases hsource
  refine ⟨e, _, ht, hs, hsettled, fun k hk σ rig other => ?_⟩
  obtain ⟨hperform, hsteps⟩ := hrun k hk σ rig other
  obtain ⟨act, htakes, hact⟩ := hsteps [.replay "key a".toList (some ⟨0, 0⟩)]
    (.replay "key b".toList (some ⟨0, 0.5⟩)) _ rfl
  rw [htakes.replay _ _ rfl] at hact
  exact ⟨hperform, hact⟩

end Conductor

end TermPilot
