import TermPilot.Proofs.Scenario.Members

/-!
# Loading an accepted scenario

A document that the schema of scenarios accepts can be loaded: the schema has a case for each kind
of step, and in each case the reader of steps finds what it asks for.
-/

namespace TermPilot

namespace Scenario

/-! ## What a loaded scenario is -/

/-- How the program is started, as the head of a document tells, or the settings where it leaves
something out. -/
structure IsHead (defaults : Settings) (payload : Json) (head : ScenarioMeta) : Prop where
  command : payload.get? "command" = some (.arr (head.command.map .str))
  command_ne_nil : head.command ≠ []
  cwd : ∃ text : Option Text, payload.get? "cwd" = text.map .str ∧ head.cwd = text.map Path.ofText
  env : Has payload "env" (· = .obj (head.env.map (Prod.map id .str))) (head.env = [])
  terminal : Has payload "terminal" (IsSize · head.terminal) (head.terminal = defaults.terminal)
  timing : Has payload "timing" (IsTiming · head.timing)
    (head.timing = ⟨defaults.batchPause, defaults.keyDelay⟩)
  waitTimeout : Has payload "wait_timeout" (·.seconds = .ok head.waitTimeout)
    (head.waitTimeout = defaults.waitTimeout)
  identifier : payload.get? "id" = head.identifier.map .str

/-- The step is of the kind that the record names, and has what the record gives. -/
inductive IsStep (waitTimeout : Float) (payload : Json) : ScenarioStep → Prop
  | replay (recording : Text) (timing : Option ReplayTiming)
    (type : payload.get? "type" = some (.str "replay".toList))
    (hrecording : payload.get? "recording" = some (.str recording))
    (htiming : Has payload "timing" (fun v => ∃ given, timing = some given ∧ IsTiming v given)
      (timing = none)) : IsStep waitTimeout payload (.replay recording timing)
  | keys (names : List Text) (type : payload.get? "type" = some (.str "keys".toList))
    (hnames : payload.get? "keys" = some (.arr (names.map .str))) (hne : names ≠ []) :
    IsStep waitTimeout payload (.keys names)
  | text (t : Text) (execute : Bool) (type : payload.get? "type" = some (.str "text".toList))
    (htext : payload.get? "text" = some (.str t))
    (hexecute : Has payload "execute" (· = .bool execute) (execute = false)) :
    IsStep waitTimeout payload (.text t execute)
  | wait (expectation : Expectation) (timeout : Float)
    (type : payload.get? "type" = some (.str "wait".toList))
    (hexpect : ∃ v, payload.get? "expect" = some v ∧
      v.get? "contains" = expectation.contains.map .str ∧
      v.get? "regex" = expectation.regex.map .str)
    (htimeout : Has payload "timeout" (·.seconds = .ok timeout) (timeout = waitTimeout)) :
    IsStep waitTimeout payload (.wait expectation timeout)
  | snapshot (label : Text) (type : payload.get? "type" = some (.str "snapshot".toList))
    (hlabel : payload.get? "label" = some (.str label)) :
    IsStep waitTimeout payload (.snapshot label)
  | resize (size : TerminalSize) (type : payload.get? "type" = some (.str "resize".toList))
    (hsize : IsSize payload size) : IsStep waitTimeout payload (.resize size.rows size.cols)

/-- The scenario is what the document says: its head, and one step for each entry, in order. -/
structure IsScenario (defaults : Settings) (data : Json) (scenario : Scenario) : Prop where
  head : ∃ payload, data.get? "meta" = some payload ∧ IsHead defaults payload scenario.head
  steps : ∃ payloads, data.get? "steps" = some (.arr payloads) ∧
    List.Forall₂ (IsStep scenario.head.waitTimeout) payloads scenario.steps
  name : data.get? "name" = scenario.name.map .str
  description : data.get? "description" = scenario.description.map .str

/-- A number of seconds in the document is beyond all doubles. -/
def HasBeyond (data : Json) : Prop :=
  (∃ payload, data.get? "meta" = some payload ∧
    (HasBeyondPause payload ∨ IsBeyond payload "wait_timeout")) ∨
  ∃ payloads, data.get? "steps" = some (.arr payloads) ∧
    ∃ payload ∈ payloads, HasBeyondPause payload ∨ IsBeyond payload "timeout"

/-- A step replays a recording from a file. -/
def NamesFile (data : Json) : Prop :=
  ∃ payloads, data.get? "steps" = some (.arr payloads) ∧
    ∃ payload ∈ payloads, payload.get? "type" = some (.str "replay".toList) ∧
      payload.get? "file" ≠ none

/-! ## The head of a scenario -/

section Head

variable {defaults : Settings} {payload : Json}

theorem loads_metaOf (h : Schema.scenarioMeta.accepts payload = true)
    (hbatch : ¬ defaults.batchPause < 0) (hkey : ¬ defaults.keyDelay < 0) :
    Loads (HasBeyondPause payload ∨ IsBeyond payload "wait_timeout") (IsHead defaults payload)
      (metaOf payload defaults) := by
  have hcommand : ∃ v, payload.get? "command" = some v ∧
      (Schema.list (.text 0) 1).accepts v = true := Schema.exists_member h (by simp) (by simp)
  obtain ⟨v, hget, hv⟩ := hcommand
  obtain ⟨hcommand, hlength⟩ := get?_eq_textsOf hget hv
  have hcwd : payload.get? "cwd" = (textOf? payload "cwd").map .str :=
    get?_eq_textOf? fun v hv => Schema.accepts_member h (by simp) hv
  have hidentifier : payload.get? "id" = (textOf? payload "id").map .str :=
    get?_eq_textOf? fun v hv => Schema.accepts_member h (by simp) hv
  have hterminal : ∀ v, payload.get? "terminal" = some v → Schema.terminalSize.accepts v = true :=
    fun v hv => Schema.accepts_member h (by simp) hv
  have htiming : ∀ v, payload.get? "timing" = some v → Schema.timing.accepts v = true :=
    fun v hv => Schema.accepts_member h (by simp) hv
  have hwait : ∀ v, payload.get? "wait_timeout" = some v → Schema.seconds.accepts v = true :=
    fun v hv => Schema.accepts_member h (by simp) hv
  have henv : ∀ v, payload.get? "env" = some v → (Schema.map (.text 0)).accepts v = true :=
    fun v hv => Schema.accepts_member h (by simp) hv
  have hdefault : defaults.timing = .ok ⟨defaults.batchPause, defaults.keyDelay⟩ := by
    rw [Settings.timing, ReplayTiming.make, if_neg (by simp [hbatch, hkey])]
  rw [metaOf]
  refine Loads.congr ((loads_terminalSizeOr hterminal).bind fun terminal hterminal =>
    (loads_timingOf? htiming).bind fun given hgiven => ?_) (false_or _).to_iff
  have hrest (timing : ReplayTiming)
      (htiming : Has payload "timing" (IsTiming · timing)
        (timing = ⟨defaults.batchPause, defaults.keyDelay⟩)) :
      Loads (IsBeyond payload "wait_timeout") (IsHead defaults payload)
        (payload.secondsOr "wait_timeout" defaults.waitTimeout >>= fun waitTimeout => .ok {
          command := textsOf payload "command"
          cwd := (textOf? payload "cwd").map Path.ofText
          env := (((payload.get? "env").bind Json.members?).getD []).filterMap
            fun member => member.2.text?.map fun t => (member.1, t)
          terminal, timing, waitTimeout
          identifier := textOf? payload "id" }) :=
    (loads_secondsOr hwait).map fun waitTimeout hwaitTimeout => {
      command := hcommand
      command_ne_nil := List.ne_nil_of_length_pos hlength
      cwd := ⟨textOf? payload "cwd", hcwd, rfl⟩
      env := has_env henv rfl
      terminal := hterminal
      timing := htiming
      waitTimeout := hwaitTimeout.1
      identifier := hidentifier }
  cases hget : payload.get? "timing" with
  | none =>
    rw [Has, hget] at hgiven
    obtain rfl : given = none := hgiven
    dsimp only
    rw [hdefault]
    exact hrest _ (Has.of_none hget rfl)
  | some v =>
    rw [Has, hget] at hgiven
    obtain ⟨timing, rfl, htiming⟩ := hgiven
    exact hrest timing (Has.of_some hget htiming)

end Head

/-! ## Steps -/

section Steps

variable {payload : Json} {type : String} {fields : List (String × Schema)} {required : List String}
  {key : String} {schema : Schema}

theorem type_of_step (h : (Schema.step type fields required).accepts payload = true) :
    payload.get? "type" = some (.str type.toList) := by
  have htype : ∃ v, payload.get? "type" = some v ∧ (Schema.word [type.toList]).accepts v = true :=
    Schema.exists_member h List.mem_cons_self List.mem_cons_self
  obtain ⟨v, hget, hv⟩ := htype
  rw [hget, Schema.eq_word hv]

theorem accepts_member_of_step (h : (Schema.step type fields required).accepts payload = true)
    (hfield : (key, schema) ∈ fields) {v : Json} (hv : payload.get? key = some v) :
    schema.accepts v = true :=
  Schema.accepts_member h (List.mem_cons_of_mem _ (List.mem_map.mpr ⟨_, hfield, rfl⟩)) hv

theorem exists_member_of_step (h : (Schema.step type fields required).accepts payload = true)
    (hrequired : key ∈ required) (hfield : (key, schema) ∈ fields) :
    ∃ v, payload.get? key = some v ∧ schema.accepts v = true :=
  Schema.exists_member h (List.mem_cons_of_mem _ (List.mem_map_of_mem hrequired))
    (List.mem_cons_of_mem _ (List.mem_map.mpr ⟨_, hfield, rfl⟩))

theorem get?_eq_none_of_step (h : (Schema.step type fields required).accepts payload = true)
    (hkey : key ≠ "type") (hfields : key ∉ fields.map Prod.fst) : payload.get? key = none := by
  refine Schema.get?_eq_none h fun hmem => ?_
  rw [List.map_cons, List.map_map, List.mem_cons] at hmem
  rcases hmem with htype | hfield
  · exact hkey (String.toList_injective htype)
  · obtain ⟨field, hfield, hname⟩ := List.mem_map.mp hfield
    exact hfields (List.mem_map.mpr ⟨field, hfield, String.toList_injective hname⟩)

theorem string_of_type (h : payload.get? "type" = some (.str type.toList)) :
    ((textOf? payload "type").map Text.string).getD "" = type := by
  rw [textOf?_of_get? h, Option.map_some, Option.getD_some, Text.string, String.ofList_toList]

end Steps

section StepKinds

variable {files : FileStore} {base : Path} {waitTimeout : Float} {payload : Json}

/-- Loading the step gives a step of its kind, or fails for a number beyond all doubles. -/
def StepLoads (files : FileStore) (base : Path) (waitTimeout : Float) (payload : Json) : Prop :=
  Loads (HasBeyondPause payload ∨ IsBeyond payload "timeout") (IsStep waitTimeout payload)
    (stepOf files base waitTimeout payload)

theorem loads_replay (h : Schema.replayStep.accepts payload = true)
    (hfile : payload.get? "file" = none) : StepLoads files base waitTimeout payload := by
  rw [Schema.replayStep, Schema.accepts_both, Bool.and_eq_true] at h
  obtain ⟨hstep, heither⟩ := h
  have htype := type_of_step hstep
  obtain ⟨v, hget⟩ := Schema.eitherMember_get? heither hfile
  have hv : (Schema.text 0).accepts v = true := accepts_member_of_step hstep (by simp) hget
  obtain ⟨recording, rfl, -⟩ := Schema.exists_text hv
  have htiming : ∀ v, payload.get? "timing" = some v → Schema.timing.accepts v = true :=
    fun v hv => accepts_member_of_step hstep (by simp) hv
  have htimeout : ¬ IsBeyond payload "timeout" :=
    not_isBeyond (get?_eq_none_of_step hstep (by decide) (by decide))
  have heq : stepOf files base waitTimeout payload =
      timingOf? payload >>= fun timing => .ok (.replay recording timing) := by
    rw [stepOf, string_of_type htype, textOf?_of_get? hget]
    rfl
  rw [StepLoads, heq]
  exact ((loads_timingOf? htiming).map fun timing hgiven =>
    .replay recording timing htype hget hgiven).congr (by simp [htimeout])

/-- A step whose kind has no numbers of seconds is loaded. -/
theorem stepLoads_of_ok {type : String} {fields : List (String × Schema)} {required : List String}
    {step : ScenarioStep} (h : (Schema.step type fields required).accepts payload = true)
    (htiming : "timing" ∉ fields.map Prod.fst) (htimeout : "timeout" ∉ fields.map Prod.fst)
    (heq : stepOf files base waitTimeout payload = .ok step)
    (his : IsStep waitTimeout payload step) : StepLoads files base waitTimeout payload := by
  have hpause := not_hasBeyondPause (get?_eq_none_of_step h (by decide) htiming)
  have hbeyond := not_isBeyond (get?_eq_none_of_step h (by decide) htimeout)
  rw [StepLoads, heq]
  exact (Loads.of_ok his).congr (by simp [hpause, hbeyond])

theorem loads_keys (h : Schema.keysStep.accepts payload = true) :
    StepLoads files base waitTimeout payload := by
  have htype := type_of_step h
  obtain ⟨v, hget, hv⟩ := exists_member_of_step h (List.mem_singleton_self "keys")
    (List.mem_singleton_self _)
  obtain ⟨hnames, hlength⟩ := get?_eq_textsOf hget hv
  have heq : stepOf files base waitTimeout payload = .ok (.keys (textsOf payload "keys")) := by
    rw [stepOf, string_of_type htype]
    rfl
  exact stepLoads_of_ok h (by decide) (by decide) heq
    (.keys _ htype hnames (List.ne_nil_of_length_pos hlength))

theorem loads_text (h : Schema.textStep.accepts payload = true) :
    StepLoads files base waitTimeout payload := by
  have htype := type_of_step h
  have htext : ∃ v, payload.get? "text" = some v ∧ (Schema.text 0).accepts v = true :=
    exists_member_of_step h (by simp) (by simp)
  obtain ⟨v, hget, hv⟩ := htext
  obtain ⟨t, rfl, -⟩ := Schema.exists_text hv
  have heq : stepOf files base waitTimeout payload =
      .ok (.text t (((payload.get? "execute").bind Json.bool?).getD false)) := by
    rw [stepOf, string_of_type htype, textOf?_of_get? hget]
    rfl
  refine stepLoads_of_ok h (by decide) (by decide) heq (.text _ _ htype hget ?_)
  cases hexecute : payload.get? "execute" with
  | none => exact Has.of_none hexecute rfl
  | some v =>
    have hv : Schema.bool.accepts v = true := accepts_member_of_step h (by simp) hexecute
    obtain ⟨b, rfl⟩ := Schema.exists_bool hv
    exact Has.of_some hexecute rfl

theorem loads_wait (h : Schema.waitStep.accepts payload = true) :
    StepLoads files base waitTimeout payload := by
  have htype := type_of_step h
  have hexpect : ∃ v, payload.get? "expect" = some v ∧ Schema.expectation.accepts v = true :=
    exists_member_of_step h (by simp) (by simp)
  obtain ⟨v, hget, hv⟩ := hexpect
  rw [Schema.expectation, Schema.accepts_both, Bool.and_eq_true] at hv
  have hcontains : v.get? "contains" = (textOf? v "contains").map .str :=
    get?_eq_textOf? fun w hw => Schema.accepts_member hv.1 (by simp) hw
  have hregex : v.get? "regex" = (textOf? v "regex").map .str :=
    get?_eq_textOf? fun w hw => Schema.accepts_member hv.1 (by simp) hw
  have htimeout : ∀ w, payload.get? "timeout" = some w → Schema.seconds.accepts w = true :=
    fun w hw => accepts_member_of_step h (by simp) hw
  have hpause : ¬ HasBeyondPause payload :=
    not_hasBeyondPause (get?_eq_none_of_step h (by decide) (by decide))
  have heq : stepOf files base waitTimeout payload =
      payload.secondsOr "timeout" waitTimeout >>= fun timeout =>
        .ok (.wait ⟨textOf? v "contains", textOf? v "regex"⟩ timeout) := by
    rw [stepOf, string_of_type htype, hget]
    rfl
  rw [StepLoads, heq]
  exact ((loads_secondsOr htimeout).map fun timeout hgiven =>
    .wait _ timeout htype ⟨v, hget, hcontains, hregex⟩ hgiven.1).congr (by simp [hpause])

theorem loads_snapshot (h : Schema.snapshotStep.accepts payload = true) :
    StepLoads files base waitTimeout payload := by
  have htype := type_of_step h
  have hlabel : ∃ v, payload.get? "label" = some v ∧ (Schema.text 0).accepts v = true :=
    exists_member_of_step h (by simp) (by simp)
  obtain ⟨v, hget, hv⟩ := hlabel
  obtain ⟨label, rfl, -⟩ := Schema.exists_text hv
  have heq : stepOf files base waitTimeout payload = .ok (.snapshot label) := by
    rw [stepOf, string_of_type htype, textOf?_of_get? hget]
    rfl
  exact stepLoads_of_ok h (by decide) (by decide) heq (.snapshot label htype hget)

theorem loads_resize (h : Schema.resizeStep.accepts payload = true) :
    StepLoads files base waitTimeout payload := by
  have htype := type_of_step h
  obtain ⟨size, hsize, his⟩ := terminalSize_of_counts
    (exists_member_of_step h (by simp) (by simp)) (exists_member_of_step h (by simp) (by simp))
  have heq : stepOf files base waitTimeout payload = .ok (.resize size.rows size.cols) := by
    rw [stepOf, string_of_type htype, hsize]
    rfl
  exact stepLoads_of_ok h (by decide) (by decide) heq (.resize size htype his)

end StepKinds

/-- One of the kinds of steps accepts the record, and it is loaded as a step of this kind. -/
theorem loads_stepOf {files : FileStore} {base : Path} {waitTimeout : Float} {payload : Json}
    (h : (Schema.oneOf [.replayStep, .keysStep, .textStep, .waitStep, .snapshotStep,
      .resizeStep]).accepts payload = true)
    (hfile : payload.get? "type" = some (.str "replay".toList) → payload.get? "file" = none) :
    StepLoads files base waitTimeout payload := by
  obtain ⟨kind, hkind, haccepts⟩ := Schema.exists_choice h
  simp only [List.mem_cons, List.not_mem_nil, or_false] at hkind
  rcases hkind with rfl | rfl | rfl | rfl | rfl | rfl
  · have hstep := haccepts
    rw [Schema.replayStep, Schema.accepts_both, Bool.and_eq_true] at hstep
    exact loads_replay haccepts (hfile (type_of_step hstep.1))
  · exact loads_keys haccepts
  · exact loads_text haccepts
  · exact loads_wait haccepts
  · exact loads_snapshot haccepts
  · exact loads_resize haccepts

/-! ## Scenarios -/

theorem loads_ofJson {files : FileStore} {base : Path} {defaults : Settings} {data : Json}
    (h : Schema.scenario.accepts data = true) (hfile : ¬ NamesFile data)
    (hbatch : ¬ defaults.batchPause < 0) (hkey : ¬ defaults.keyDelay < 0) :
    Loads (HasBeyond data) (IsScenario defaults data) (ofJson files base defaults data) := by
  have hmeta : ∃ v, data.get? "meta" = some v ∧ Schema.scenarioMeta.accepts v = true :=
    Schema.exists_member h (by simp) (by simp)
  have hsteps : ∃ v, data.get? "steps" = some v ∧
      (Schema.list (.oneOf [.replayStep, .keysStep, .textStep, .waitStep, .snapshotStep,
        .resizeStep]) 1).accepts v = true := Schema.exists_member h (by simp) (by simp)
  obtain ⟨head, hhead, hheadAccepts⟩ := hmeta
  obtain ⟨v, hget, hv⟩ := hsteps
  obtain ⟨payloads, rfl, -, hpayloads⟩ := Schema.exists_items hv
  have hname : data.get? "name" = (textOf? data "name").map .str :=
    get?_eq_textOf? fun v hv => Schema.accepts_member h (by simp) hv
  have hdescription : data.get? "description" = (textOf? data "description").map .str :=
    get?_eq_textOf? fun v hv => Schema.accepts_member h (by simp) hv
  have hbeyond : ((HasBeyondPause head ∨ IsBeyond head "wait_timeout") ∨
      ∃ payload ∈ payloads, HasBeyondPause payload ∨ IsBeyond payload "timeout") ↔
      HasBeyond data := by
    simp [HasBeyond, hhead, hget]
  rw [ofJson, if_pos h, hhead, hget]
  refine ((loads_metaOf hheadAccepts hbatch hkey).bind fun parsed hparsed => ?_).congr hbeyond
  have hloads : ∀ payload ∈ payloads, StepLoads files base parsed.waitTimeout payload :=
    fun payload hmem => loads_stepOf (hpayloads payload hmem) fun htype =>
      by_contra fun hnamed => hfile ⟨payloads, hget, payload, hmem, htype, hnamed⟩
  exact (Loads.mapM hloads).map fun steps hsteps =>
    ⟨⟨head, hhead, hparsed⟩, ⟨payloads, hget, hsteps⟩, hname, hdescription⟩

/-- The document that a scenario is loaded from, where documents may be nested to a depth. -/
inductive SourceOf (files : FileStore) (depth : Nat) : Source → Json → Prop
  | document (data : Json) : SourceOf files depth (.document data) data
  | file (path : Path) (bytes : List UInt8) (data : Json) (hread : files.read path = .ok bytes)
    (hdata : Settings.documentOf bytes depth = .ok data) : SourceOf files depth (.file path) data

/-- What the schema accepts can be loaded, unless a number of seconds is beyond all doubles: then,
and only then, this is the fault. Replayed recordings have to be in the document itself, since a
file may be missing. -/
theorem load_of_accepts (files : FileStore) (defaults : Settings) {depth : Nat} {source : Source}
    {data : Json} (hsource : SourceOf files depth source data)
    (h : Schema.scenario.accepts data = true) (hfile : ¬ NamesFile data)
    (hbatch : ¬ defaults.batchPause < 0) (hkey : ¬ defaults.keyDelay < 0) :
    Loads (HasBeyond data) (IsScenario defaults data) (load files defaults source depth) := by
  cases hsource with
  | document data => exact loads_ofJson h hfile hbatch hkey
  | file path bytes data hread hdata =>
    rw [load, hread]
    change Loads _ _ (Settings.documentOf bytes depth >>= _)
    rw [hdata]
    exact loads_ofJson h hfile hbatch hkey

/-- A scenario that replays a recording, waits for a text, presses a key and keeps the screen. -/
def sampleScenario (timeout : Int) : Json :=
  .obj [("meta".toList, .obj [("command".toList, .arr [.str "sh".toList]),
      ("terminal".toList, .obj [("rows".toList, .int 30), ("cols".toList, .int 100)])]),
    ("steps".toList, .arr [
      .obj [("type".toList, .str "replay".toList), ("recording".toList, .str "key a".toList)],
      .obj [("type".toList, .str "wait".toList),
        ("expect".toList, .obj [("contains".toList, .str "a".toList)]),
        ("timeout".toList, .int timeout)],
      .obj [("type".toList, .str "keys".toList), ("keys".toList, .arr [.str "ctrl-l".toList])],
      .obj [("type".toList, .str "snapshot".toList), ("label".toList, .str "cleared".toList)]])]

theorem not_namesFile_sampleScenario (timeout : Int) : ¬ NamesFile (sampleScenario timeout) := by
  simp [NamesFile, sampleScenario, Json.get?, Json.find?]

theorem hasBeyond_sampleScenario_iff (timeout : Int) :
    HasBeyond (sampleScenario timeout) ↔ Double.limit ≤ timeout.natAbs := by
  constructor
  · rintro (⟨head, hhead, hbeyond⟩ | ⟨payloads, hpayloads, payload, hmem, hbeyond⟩)
    · obtain rfl := Option.some.inj hhead
      exact (hbeyond.elim (not_hasBeyondPause rfl) (not_isBeyond rfl)).elim
    · obtain rfl := Json.arr.inj (Option.some.inj hpayloads)
      simp only [List.mem_cons, List.not_mem_nil, or_false] at hmem
      rcases hmem with rfl | rfl | rfl | rfl
      · exact (hbeyond.elim (not_hasBeyondPause rfl) (not_isBeyond rfl)).elim
      · obtain ⟨n, hget, hlimit⟩ := hbeyond.resolve_left (not_hasBeyondPause rfl)
        rwa [← Json.int.inj (Option.some.inj hget)] at hlimit
      · exact (hbeyond.elim (not_hasBeyondPause rfl) (not_isBeyond rfl)).elim
      · exact (hbeyond.elim (not_hasBeyondPause rfl) (not_isBeyond rfl)).elim
  · intro hlimit
    exact Or.inr ⟨_, rfl, _, List.mem_cons_of_mem _ List.mem_cons_self,
      Or.inr ⟨timeout, rfl, hlimit⟩⟩

/-- The sample with a wait of thirty seconds is loaded; with a wait beyond all doubles it is not. -/
theorem load_sampleScenario :
    (∃ scenario, load ⟨.ofText "/".toList, [], []⟩ {} (.document (sampleScenario 30)) =
        .ok scenario ∧ IsScenario {} (sampleScenario 30) scenario) ∧
      load ⟨.ofText "/".toList, [], []⟩ {} (.document (sampleScenario Double.limit)) =
        .error .beyondDoubles := by
  have hpause : ¬ ({} : Settings).batchPause < 0 := Double.not_zero_lt_zero
  have hdelay : ¬ ({} : Settings).keyDelay < 0 := Double.not_zero_lt_zero
  have hwithin : ¬ HasBeyond (sampleScenario 30) := by
    rw [hasBeyond_sampleScenario_iff]
    exact Nat.not_le.mpr (Double.lt_limit (by decide))
  have hbeyond : HasBeyond (sampleScenario Double.limit) :=
    (hasBeyond_sampleScenario_iff Double.limit).mpr (Nat.le_of_eq (Int.natAbs_natCast _).symm)
  constructor
  · have hsource : SourceOf ⟨.ofText "/".toList, [], []⟩ Json.usualDepth
        (.document (sampleScenario 30)) (sampleScenario 30) := .document _
    have h := load_of_accepts ⟨.ofText "/".toList, [], []⟩ {} hsource (by decide +kernel)
      (not_namesFile_sampleScenario 30) hpause hdelay
    exact (h.resolve_left fun hfault => hwithin hfault.1).2
  · have hsource : SourceOf ⟨.ofText "/".toList, [], []⟩ Json.usualDepth
        (.document (sampleScenario Double.limit)) (sampleScenario Double.limit) := .document _
    have h := load_of_accepts ⟨.ofText "/".toList, [], []⟩ {} hsource (by decide +kernel)
      (not_namesFile_sampleScenario Double.limit) hpause hdelay
    exact (h.resolve_right fun hloaded => hloaded.1 hbeyond).2

end Scenario

end TermPilot
