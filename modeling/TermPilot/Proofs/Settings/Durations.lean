import TermPilot.Proofs.Json.Schema
import TermPilot.Proofs.Number.Order
import TermPilot.Proofs.Settings.Environment
import TermPilot.Settings.Load

/-!
# The durations of settings

A wait for less than no time and a pause between looks that is not above zero are refused, be they
from a document or from the environment. Both tests are for what is too small. A double that is no
number is never too small, so it comes through, and no time is ever found to be beyond it.
-/

namespace TermPilot

open Recording (bind_eq_ok)

/-! ## What is said of a duration -/

/-- The member is a real that is no number. -/
def Json.SaysNaN (data : Json) (key : String) : Prop :=
  ∃ x, data.get? key = some (.real x) ∧ x.isNaN = true

theorem Json.not_saysNaN_of_none {data : Json} {key : String} (h : data.get? key = none) :
    ¬ data.SaysNaN key := by
  simp [SaysNaN, h]

/-- The variable is the word for no number. -/
def Environment.SaysNaN (e : Environment) (name : String) : Prop :=
  ∃ value, e.get? name = some value ∧ Numeral.SaysNaN value

/-- The bound as a comparison of doubles. -/
def LowerBound.Holds : LowerBound → Float → Prop
  | .zero, x => 0 ≤ x
  | .positive, x => 0 < x

/-- The double is no number exactly if this is said of it; it is within its bound otherwise. -/
structure IsDuration (bound : LowerBound) (x : Float) (nan : Prop) : Prop where
  isNaN_iff : x.isNaN = true ↔ nan
  holds_iff : bound.Holds x ↔ ¬ nan

section Durations

variable {bound : LowerBound} {x : Float} {nan : Prop}

theorem LowerBound.Holds.not_isNaN (h : bound.Holds x) : ¬ x.isNaN = true := by
  cases bound with
  | zero => exact (Double.zero_le_iff.mp h).2
  | positive => exact (Double.zero_lt_iff.mp h).2

theorem IsDuration.of_holds (h : bound.Holds x) (hnan : ¬ nan) : IsDuration bound x nan :=
  ⟨iff_of_false h.not_isNaN hnan, iff_of_true h hnan⟩

/-- A real that its bound does not refuse. -/
theorem IsDuration.of_real (h : Json.withinBound bound (.real x) = true) :
    IsDuration bound x (x.isNaN = true) := by
  refine ⟨Iff.rfl, ?_⟩
  cases bound with
  | zero =>
    have hbound : ¬ x < 0 := by simpa [Json.withinBound] using h
    exact Double.zero_le_iff.trans (and_iff_right hbound)
  | positive =>
    have hbound : ¬ x ≤ 0 := by simpa [Json.withinBound] using h
    exact Double.zero_lt_iff.trans (and_iff_right hbound)

theorem holds_of_ofInt {n : Int} (h : Json.withinBound bound (.int n) = true)
    (hx : Double.ofInt n = some x) : bound.Holds x := by
  cases bound with
  | zero =>
    have hn : 0 ≤ n := of_decide_eq_true h
    exact Double.zero_le_iff.mpr ⟨Double.not_lt_zero_of_ofInt hn hx, Double.not_isNaN_of_ofInt hx⟩
  | positive =>
    have hn : 0 < n := of_decide_eq_true h
    exact Double.zero_lt_of_ofInt hn hx

/-! ## Members -/

theorem IsDuration.of_secondsOr {data : Json} {key : String} {default : Float}
    (h : ∀ v, data.get? key = some v → (Schema.number bound).accepts v = true)
    (hdefault : bound.Holds default) (hx : data.secondsOr key default = .ok x) :
    IsDuration bound x (data.SaysNaN key) := by
  rw [Json.secondsOr] at hx
  cases hget : data.get? key with
  | none =>
    rw [hget] at hx
    obtain rfl := Except.ok.inj hx
    exact .of_holds hdefault (Json.not_saysNaN_of_none hget)
  | some v =>
    rw [hget] at hx
    have hv := h v hget
    rw [Schema.accepts_number] at hv
    cases v with
    | int n =>
      cases hnearest : Double.ofInt n with
      | none => simp [Json.seconds, hnearest] at hx
      | some y =>
        have hy : y = x := by simpa [Json.seconds, hnearest] using hx
        subst hy
        exact .of_holds (holds_of_ofInt hv hnearest) (by simp [Json.SaysNaN, hget])
    | real y =>
      obtain rfl := Except.ok.inj hx
      have hiff : data.SaysNaN key ↔ y.isNaN = true := by simp [Json.SaysNaN, hget]
      rw [hiff]
      exact .of_real hv
    | _ => cases hx

/-! ## Variables -/

theorem not_saysNaN_empty : ¬ Numeral.SaysNaN [] := by decide

/-- A variable that is set gives a duration of its own. -/
theorem IsDuration.of_real? {value : Text} (hreal : Numeral.real? value = some x)
    (hbound : ¬ x < 0) : IsDuration .zero x (Numeral.SaysNaN value) := by
  have hiff := Numeral.isNaN_iff_saysNaN hreal
  refine ⟨hiff, ?_⟩
  rw [← hiff]
  exact Double.zero_le_iff.trans (and_iff_right hbound)

theorem Environment.SaysNaN.sets {e : Environment} {name : String} (h : e.SaysNaN name) :
    e.Sets name := by
  obtain ⟨value, hget, hnan⟩ := h
  refine ⟨value, hget, ?_⟩
  rintro rfl
  exact not_saysNaN_empty hnan

/-- What a variable makes of a duration. -/
theorem IsDuration.of_seconds {e : Environment} {name : String} {given : Option Float}
    (h : IsDuration .zero x nan) (hgiven : Overrides.seconds e name = .ok given) :
    IsDuration .zero (given.getD x) (e.SaysNaN name ∨ ¬ e.Sets name ∧ nan) := by
  rcases Overrides.seconds_eq_ok hgiven with
    ⟨hsets, rfl⟩ | ⟨value, y, hget, hne, hreal, hbound, rfl⟩
  · have hiff : (e.SaysNaN name ∨ ¬ e.Sets name ∧ nan) ↔ nan := by
      simp [hsets, mt Environment.SaysNaN.sets hsets]
    rwa [hiff]
  · have hiff : (e.SaysNaN name ∨ ¬ e.Sets name ∧ nan) ↔ Numeral.SaysNaN value := by
      simp [Environment.SaysNaN, Environment.Sets, hget, hne]
    rw [hiff]
    exact .of_real? hreal hbound

end Durations

/-! ## Settings -/

namespace Settings

/-- What settings are loaded from. -/
inductive Source where
  | document (data : Json)
  | file (bytes : List UInt8)

/-- The document that a source holds, where documents may be nested to a depth. -/
def Source.document? (source : Source) (depth : Nat := Json.usualDepth) : Except Fault Json :=
  match source with
  | .document data => .ok data
  | .file bytes => documentOf bytes depth

/-- The settings that a source gives. -/
def Source.load (source : Source) (depth : Nat := Json.usualDepth) : Except Fault Settings :=
  match source with
  | .document data => ofJson data
  | .file bytes => ofFile bytes depth

/-- All durations can be used. -/
structure IsUsable (s : Settings) : Prop where
  batchPause : 0 ≤ s.batchPause
  keyDelay : 0 ≤ s.keyDelay
  waitTimeout : 0 ≤ s.waitTimeout
  pollInterval : 0 < s.pollInterval

/-- The variable says that a duration is no number; or it is not set, and the member does. -/
def SaysNaN (data : Json) (e : Environment) (key name : String) : Prop :=
  e.SaysNaN name ∨ ¬ e.Sets name ∧ data.SaysNaN key

/-- The durations are no numbers where the environment or else the document says so, and usable
everywhere else. -/
structure HasDurations (data : Json) (e : Environment) (s : Settings) : Prop where
  batchPause : IsDuration .zero s.batchPause
    (SaysNaN data e "batch_pause" "TERM_HARNESS_BATCH_PAUSE")
  keyDelay : IsDuration .zero s.keyDelay (SaysNaN data e "key_delay" "TERM_HARNESS_KEY_DELAY")
  waitTimeout : IsDuration .zero s.waitTimeout
    (SaysNaN data e "wait_timeout" "TERM_HARNESS_WAIT_TIMEOUT")
  pollInterval : IsDuration .positive s.pollInterval (data.SaysNaN "poll_interval")

variable {data : Json} {e : Environment} {s t : Settings}

theorem saysNaN_nil {key name : String} : SaysNaN data [] key name ↔ data.SaysNaN key := by
  simp [SaysNaN, Environment.SaysNaN, Environment.Sets, Environment.get?]

theorem not_saysNaN_of_none {key name : String} (hname : e.get? name = none)
    (hkey : data.get? key = none) : ¬ SaysNaN data e key name := by
  have hvariable : ¬ e.SaysNaN name := fun h => Environment.not_sets_of_none hname h.sets
  simp [SaysNaN, hvariable, Json.not_saysNaN_of_none hkey]

/-- Settings are usable exactly if nothing says of a duration that it is no number. -/
theorem HasDurations.isUsable_iff (h : s.HasDurations data e) :
    s.IsUsable ↔ ¬ SaysNaN data e "batch_pause" "TERM_HARNESS_BATCH_PAUSE" ∧
      ¬ SaysNaN data e "key_delay" "TERM_HARNESS_KEY_DELAY" ∧
      ¬ SaysNaN data e "wait_timeout" "TERM_HARNESS_WAIT_TIMEOUT" ∧
      ¬ data.SaysNaN "poll_interval" := by
  rw [← h.batchPause.holds_iff, ← h.keyDelay.holds_iff, ← h.waitTimeout.holds_iff,
    ← h.pollInterval.holds_iff]
  exact ⟨fun hs => ⟨hs.1, hs.2, hs.3, hs.4⟩, fun hs => ⟨hs.1, hs.2.1, hs.2.2.1, hs.2.2.2⟩⟩

theorem isUsable_default : ({} : Settings).IsUsable where
  batchPause := by decide
  keyDelay := by decide
  waitTimeout := by decide
  pollInterval := by decide

theorem hasDurations_of_ofJson (h : ofJson data = .ok s) : s.HasDurations data [] := by
  rw [ofJson] at h
  split_ifs at h with haccepts
  obtain ⟨terminal, -, h⟩ := bind_eq_ok.mp h
  obtain ⟨batchPause, hbatchPause, h⟩ := bind_eq_ok.mp h
  obtain ⟨keyDelay, hkeyDelay, h⟩ := bind_eq_ok.mp h
  obtain ⟨waitTimeout, hwaitTimeout, h⟩ := bind_eq_ok.mp h
  obtain ⟨pollInterval, hpollInterval, h⟩ := bind_eq_ok.mp h
  obtain rfl := Except.ok.inj h
  clear h
  have hseconds (key : String) (hfield : (key.toList, Schema.seconds) ∈
        [("batch_pause".toList, Schema.seconds), ("key_delay".toList, Schema.seconds),
          ("wait_timeout".toList, Schema.seconds)]) :
      ∀ v, data.get? key = some v → Schema.seconds.accepts v = true :=
    fun v hv => Schema.accepts_member haccepts (List.mem_append_left _ hfield) hv
  have hinterval : ∀ v, data.get? "poll_interval" = some v →
      (Schema.number .positive).accepts v = true :=
    fun v hv => Schema.accepts_member haccepts (by simp) hv
  constructor
  all_goals simp only [saysNaN_nil]
  · exact .of_secondsOr (hseconds _ (by simp)) isUsable_default.batchPause hbatchPause
  · exact .of_secondsOr (hseconds _ (by simp)) isUsable_default.keyDelay hkeyDelay
  · exact .of_secondsOr (hseconds _ (by simp)) isUsable_default.waitTimeout hwaitTimeout
  · exact .of_secondsOr hinterval isUsable_default.pollInterval hpollInterval

theorem HasDurations.inEnvironment (h : s.HasDurations data []) (ht : s.inEnvironment e = .ok t) :
    t.HasDurations data e := by
  have hbatchPause := h.batchPause
  have hkeyDelay := h.keyDelay
  have hwaitTimeout := h.waitTimeout
  rw [saysNaN_nil] at hbatchPause hkeyDelay hwaitTimeout
  obtain ⟨o, hkey, hbatch, hwait, rfl⟩ := inEnvironment_eq_ok ht
  exact ⟨hbatchPause.of_seconds hbatch, hkeyDelay.of_seconds hkey, hwaitTimeout.of_seconds hwait,
    h.pollInterval⟩

/-- From whatever source settings are loaded, and whatever environment they are brought into: their
durations are usable but for those that the environment, or else the source, says to be no number.
These are no numbers, and so neither below zero nor above. -/
theorem hasDurations_of_load {source : Source} {depth : Nat} (h : source.load depth = .ok s) :
    ∃ data, source.document? depth = .ok data ∧ s.HasDurations data [] ∧
      ∀ e t, s.inEnvironment e = .ok t → t.HasDurations data e := by
  have hofJson : ∃ data, source.document? depth = .ok data ∧ ofJson data = .ok s := by
    cases source with
    | document data => exact ⟨data, rfl, h⟩
    | file bytes => exact bind_eq_ok.mp h
  obtain ⟨data, hdocument, hdata⟩ := hofJson
  have hdurations := hasDurations_of_ofJson hdata
  exact ⟨data, hdocument, hdurations, fun e t ht => hdurations.inEnvironment ht⟩

/-- A document whose waits take no number of seconds. -/
def untimedDocument : Json := .obj [("wait_timeout".toList, .real Double.nan)]

/-- An environment whose waits take half a second. -/
def timedEnvironment : Environment := [("TERM_HARNESS_WAIT_TIMEOUT".toList, "0.5".toList)]

/-- What the environment sets makes up for what the document says. -/
theorem isUsable_untimedDocument :
    (Source.document untimedDocument).load = .ok { waitTimeout := Double.nan } ∧
      ({ waitTimeout := Double.nan } : Settings).inEnvironment timedEnvironment =
        .ok { waitTimeout := 0.5 } ∧
      ¬ ({ waitTimeout := Double.nan } : Settings).IsUsable ∧
      ({ waitTimeout := 0.5 } : Settings).IsUsable := by
  have hload : (Source.document untimedDocument).load = .ok { waitTimeout := Double.nan } := rfl
  have henv : ({ waitTimeout := Double.nan } : Settings).inEnvironment timedEnvironment =
      .ok { waitTimeout := 0.5 } := rfl
  refine ⟨hload, henv, ?_⟩
  obtain ⟨data, hdata, hloaded, hentered⟩ := hasDurations_of_load hload
  obtain rfl : untimedDocument = data := Except.ok.inj hdata
  rw [hloaded.isUsable_iff, (hentered _ _ henv).isUsable_iff]
  have huntimed : SaysNaN untimedDocument [] "wait_timeout" "TERM_HARNESS_WAIT_TIMEOUT" :=
    saysNaN_nil.mpr ⟨Double.nan, rfl, by decide⟩
  have htimed : ¬ SaysNaN untimedDocument timedEnvironment "wait_timeout"
      "TERM_HARNESS_WAIT_TIMEOUT" := by
    rintro (⟨value, hvalue, hnan⟩ | ⟨hset, -⟩)
    · obtain rfl := Option.some.inj hvalue
      exact absurd hnan (by decide)
    · exact hset ⟨_, rfl, by decide⟩
  exact ⟨fun hnone => hnone.2.2.1 huntimed, not_saysNaN_of_none rfl rfl,
    not_saysNaN_of_none rfl rfl, htimed, Json.not_saysNaN_of_none rfl⟩

/-- A variable can say that a wait takes no number of seconds. -/
theorem not_isUsable_inEnvironment :
    ¬ ∀ (source : Source) (s : Settings) (e : Environment) (t : Settings),
      source.load = .ok s → s.inEnvironment e = .ok t → s.IsUsable ∧ t.IsUsable := by
  intro hall
  have h := hall (.document (.obj [])) {} [("TERM_HARNESS_WAIT_TIMEOUT".toList, "nan".toList)]
    { waitTimeout := Double.nan } rfl rfl
  exact absurd h.2.waitTimeout (by decide)

end Settings

end TermPilot
