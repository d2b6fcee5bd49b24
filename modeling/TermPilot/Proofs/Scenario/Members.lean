import Mathlib.Data.List.Forall2
import TermPilot.Proofs.Json.Schema
import TermPilot.Proofs.Number.Double
import TermPilot.Scenario.Load

/-!
# Reading the members of accepted records

A member that its schema accepts has the form that its reader asks for. The one thing that a schema
does not tell is whether a whole number of seconds has a nearest double.
-/

namespace TermPilot

namespace Scenario

/-! ## Members of a record -/

/-- The member of the object is there and has a property, or it is missing and something else
holds. -/
def Has (object : Json) (key : String) (present : Json → Prop) (missing : Prop) : Prop :=
  match object.get? key with
  | some value => present value
  | none => missing

/-- The pauses that a record gives; one that it leaves out is zero. -/
structure IsTiming (payload : Json) (timing : ReplayTiming) : Prop where
  batchPause : Has payload "batch_pause" (·.seconds = .ok timing.batchPause) (timing.batchPause = 0)
  keyDelay : Has payload "key_delay" (·.seconds = .ok timing.keyDelay) (timing.keyDelay = 0)

/-- The numbers of rows and columns that a record gives. -/
structure IsSize (payload : Json) (size : TerminalSize) : Prop where
  rows : ∃ v, payload.get? "rows" = some v ∧ v.whole? = some size.rows
  cols : ∃ v, payload.get? "cols" = some v ∧ v.whole? = some size.cols
  rows_pos : 1 ≤ size.rows
  cols_pos : 1 ≤ size.cols

/-- The member is a whole number that is rounded beyond all doubles. -/
def IsBeyond (object : Json) (key : String) : Prop :=
  ∃ n : Int, object.get? key = some (.int n) ∧ Double.limit ≤ n.natAbs

/-- A pause of the member with the pauses is beyond all doubles. -/
def HasBeyondPause (object : Json) : Prop :=
  ∃ payload, object.get? "timing" = some payload ∧
    (IsBeyond payload "batch_pause" ∨ IsBeyond payload "key_delay")

/-! ## Outcomes -/

section Outcomes

variable {α β : Type} {beyond later : Prop} {is : α → Prop} {is' : β → Prop}

/-- A number is beyond all doubles, and that is the fault; or none is, and there is a value. -/
def Loads (beyond : Prop) (is : α → Prop) (outcome : Except Fault α) : Prop :=
  (beyond ∧ outcome = .error .beyondDoubles) ∨ (¬ beyond ∧ ∃ a, outcome = .ok a ∧ is a)

theorem Loads.of_ok {a : α} (h : is a) : Loads False is (.ok a) :=
  Or.inr ⟨id, a, rfl, h⟩

theorem Loads.bind {outcome : Except Fault α} {next : α → Except Fault β}
    (h : Loads beyond is outcome) (hnext : ∀ a, is a → Loads later is' (next a)) :
    Loads (beyond ∨ later) is' (outcome >>= next) := by
  rcases h with ⟨hbeyond, rfl⟩ | ⟨hbeyond, a, rfl, ha⟩
  · exact Or.inl ⟨Or.inl hbeyond, rfl⟩
  · rcases hnext a ha with ⟨hlater, heq⟩ | ⟨hlater, b, heq, hb⟩
    · exact Or.inl ⟨Or.inr hlater, heq⟩
    · exact Or.inr ⟨not_or.mpr ⟨hbeyond, hlater⟩, b, heq, hb⟩

/-- What is made of a value without a fault does not change whether there is one. -/
theorem Loads.map {outcome : Except Fault α} {f : α → β} (h : Loads beyond is outcome)
    (hf : ∀ a, is a → is' (f a)) : Loads beyond is' (outcome >>= fun a => .ok (f a)) := by
  rcases h with ⟨hbeyond, rfl⟩ | ⟨hbeyond, a, rfl, ha⟩
  · exact Or.inl ⟨hbeyond, rfl⟩
  · exact Or.inr ⟨hbeyond, f a, rfl, hf a ha⟩

theorem Loads.imp {later : α → Prop} {outcome : Except Fault α} (h : Loads beyond is outcome)
    (himp : ∀ a, is a → later a) : Loads beyond later outcome := by
  rcases h with hfault | ⟨hbeyond, a, rfl, ha⟩
  · exact Or.inl hfault
  · exact Or.inr ⟨hbeyond, a, rfl, himp a ha⟩

theorem Loads.of_eq_ok {outcome : Except Fault α} {a : α} (h : Loads beyond is outcome)
    (heq : outcome = .ok a) : is a := by
  rcases h with ⟨-, hfault⟩ | ⟨-, b, hb, his⟩
  · rw [hfault] at heq
    cases heq
  · rw [hb] at heq
    rwa [← Except.ok.inj heq]

theorem Loads.congr {outcome : Except Fault α} (h : Loads beyond is outcome)
    (hiff : beyond ↔ later) : Loads later is outcome := by
  rwa [← propext hiff]

theorem Loads.mapM {f : α → Except Fault β} {beyondOf : α → Prop} {isOf : α → β → Prop}
    {items : List α} (h : ∀ a ∈ items, Loads (beyondOf a) (isOf a) (f a)) :
    Loads (∃ a ∈ items, beyondOf a) (List.Forall₂ isOf items) (items.mapM f) := by
  induction items with
  | nil => exact Or.inr ⟨by simp, [], rfl, .nil⟩
  | cons a items ih =>
    obtain ⟨ha, hitems⟩ := List.forall_mem_cons.mp h
    rw [List.mapM_cons]
    have hrest : ∀ b, isOf a b → Loads (∃ a ∈ items, beyondOf a)
        (List.Forall₂ isOf (a :: items)) (items.mapM f >>= fun bs => .ok (b :: bs)) :=
      fun b hb => (ih hitems).map fun bs hbs => .cons hb hbs
    exact (ha.bind hrest).congr (by simp)

end Outcomes

/-! ## Texts -/

section Texts

variable {object : Json} {key : String}

theorem Has.of_some {present : Json → Prop} {missing : Prop} {v : Json}
    (hget : object.get? key = some v) (h : present v) : Has object key present missing := by
  rw [Has, hget]
  exact h

theorem Has.of_none {present : Json → Prop} {missing : Prop} (hget : object.get? key = none)
    (h : missing) : Has object key present missing := by
  rw [Has, hget]
  exact h

theorem Has.imp {present present' : Json → Prop}
    {missing missing' : Prop} (h : Has object key present missing)
    (hpresent : ∀ v, present v → present' v) (hmissing : missing → missing') :
    Has object key present' missing' := by
  cases hget : object.get? key with
  | none =>
    rw [Has, hget] at h
    exact .of_none hget (hmissing h)
  | some v =>
    rw [Has, hget] at h
    exact .of_some hget (hpresent v h)

theorem textOf?_of_get? {t : Text} (h : object.get? key = some (.str t)) :
    textOf? object key = some t := by
  rw [textOf?, h]
  rfl

theorem get?_eq_textOf? (h : ∀ v, object.get? key = some v → (Schema.text 0).accepts v = true) :
    object.get? key = (textOf? object key).map .str := by
  cases hget : object.get? key with
  | none =>
    rw [textOf?, hget]
    rfl
  | some v =>
    obtain ⟨t, rfl, -⟩ := Schema.exists_text (h v hget)
    rw [textOf?_of_get? hget]
    rfl

theorem textsOf_of_get? {texts : List Text} (h : object.get? key = some (.arr (texts.map .str))) :
    textsOf object key = texts := by
  have hitems : ((some (Json.arr (texts.map .str))).bind Json.items?).getD [] =
      texts.map .str := rfl
  have htexts : Json.text? ∘ Json.str = some := rfl
  rw [textsOf, h, hitems, List.filterMap_map, htexts, List.filterMap_some]

/-- The texts of a member that has to be a sequence of texts. -/
theorem get?_eq_textsOf {least shortest : Nat} {v : Json} (hget : object.get? key = some v)
    (h : (Schema.list (.text shortest) least).accepts v = true) :
    object.get? key = some (.arr ((textsOf object key).map .str)) ∧
      least ≤ (textsOf object key).length := by
  obtain ⟨items, rfl, hleast, hitems⟩ := Schema.exists_items h
  obtain ⟨texts, rfl⟩ := Schema.exists_texts hitems
  rw [textsOf_of_get? hget]
  rw [List.length_map] at hleast
  exact ⟨hget, hleast⟩

/-- The variables of a member that maps names to texts, read with their values as texts. -/
theorem has_env {env : List (Text × Text)}
    (h : ∀ v, object.get? "env" = some v → (Schema.map (.text 0)).accepts v = true)
    (henv : env = (((object.get? "env").bind Json.members?).getD []).filterMap
      fun member => member.2.text?.map fun t => (member.1, t)) :
    Has object "env" (· = .obj (env.map (Prod.map id .str))) (env = []) := by
  cases hget : object.get? "env" with
  | none =>
    rw [hget] at henv
    exact Has.of_none hget henv
  | some v =>
    obtain ⟨members, rfl, hmembers⟩ := Schema.exists_members (h v hget)
    obtain ⟨texts, rfl⟩ := Schema.exists_textMembers hmembers
    have hback : texts.filterMap ((fun member => member.2.text?.map fun t => (member.1, t)) ∘
        Prod.map id Json.str) = texts := List.filterMap_some
    have hread : env = texts := by
      rw [henv, hget, Option.bind_some, Json.members?, Option.getD_some, List.filterMap_map, hback]
    rw [hread]
    exact Has.of_some hget rfl

end Texts

/-! ## Seconds and sizes -/

section Seconds

variable {object : Json} {key : String}

theorem isBeyond_iff {v : Json} (hget : object.get? key = some v) :
    IsBeyond object key ↔ ∃ n : Int, v = .int n ∧ Double.limit ≤ n.natAbs := by
  simp [IsBeyond, hget]

theorem not_isBeyond (hget : object.get? key = none) : ¬ IsBeyond object key := by
  simp [IsBeyond, hget]

theorem not_hasBeyondPause (hget : object.get? "timing" = none) : ¬ HasBeyondPause object := by
  simp [HasBeyondPause, hget]

theorem loads_seconds {v : Json} (h : Schema.seconds.accepts v = true) :
    Loads (∃ n : Int, v = .int n ∧ Double.limit ≤ n.natAbs)
      (fun x => v.seconds = .ok x ∧ ¬ x < 0) v.seconds := by
  rcases Schema.number_zero h with ⟨n, rfl, hn⟩ | ⟨x, rfl, hx⟩
  · cases hnearest : Double.ofInt n with
    | none =>
      have hlimit := (Double.ofInt_eq_none_iff n).mp hnearest
      refine Or.inl ⟨⟨n, rfl, hlimit⟩, ?_⟩
      rw [Json.seconds, hnearest]
    | some x =>
      have hlimit : ¬ Double.limit ≤ n.natAbs := by
        rw [← Double.ofInt_eq_none_iff, hnearest]
        exact nofun
      have hseconds : (Json.int n).seconds = .ok x := by rw [Json.seconds, hnearest]
      exact Or.inr ⟨by simpa using hlimit, x, hseconds, hseconds,
        Double.not_lt_zero_of_ofInt hn hnearest⟩
  · exact Or.inr ⟨by simp, x, rfl, rfl, hx⟩

theorem loads_secondsOr {default : Float}
    (h : ∀ v, object.get? key = some v → Schema.seconds.accepts v = true) :
    Loads (IsBeyond object key)
      (fun x => Has object key (·.seconds = .ok x) (x = default) ∧ (¬ default < 0 → ¬ x < 0))
      (object.secondsOr key default) := by
  rw [Json.secondsOr]
  cases hget : object.get? key with
  | none =>
    have hdefault : Has object key (·.seconds = .ok default) (default = default) :=
      Has.of_none hget rfl
    exact (Loads.of_ok ⟨hdefault, id⟩).congr (iff_of_false id (not_isBeyond hget))
  | some v =>
    refine ((loads_seconds (h v hget)).imp fun x hx => ?_).congr (isBeyond_iff hget).symm
    exact ⟨Has.of_some hget hx.1, fun _ => hx.2⟩

theorem terminalSize_of_counts {size : Json}
    (hrows : ∃ v, size.get? "rows" = some v ∧ Schema.count.accepts v = true)
    (hcols : ∃ v, size.get? "cols" = some v ∧ Schema.count.accepts v = true) :
    ∃ given, size.terminalSize = .ok given ∧ IsSize size given := by
  obtain ⟨v, hv, hvCount⟩ := hrows
  obtain ⟨w, hw, hwCount⟩ := hcols
  obtain ⟨rows, hrows, hrowsPos⟩ := Schema.exists_count hvCount
  obtain ⟨cols, hcols, hcolsPos⟩ := Schema.exists_count hwCount
  refine ⟨⟨cols, rows⟩, ?_, ⟨v, hv, hrows⟩, ⟨w, hw, hcols⟩, hrowsPos, hcolsPos⟩
  rw [Json.terminalSize, hv, hw, Option.bind_some, Option.bind_some, hrows, hcols]

theorem loads_timingOf {payload : Json} (h : Schema.timing.accepts payload = true) :
    Loads (IsBeyond payload "batch_pause" ∨ IsBeyond payload "key_delay") (IsTiming payload)
      (timingOf payload) := by
  have hbatch : ∀ v, payload.get? "batch_pause" = some v → Schema.seconds.accepts v = true :=
    fun v hv => Schema.accepts_member h (by simp) hv
  have hkey : ∀ v, payload.get? "key_delay" = some v → Schema.seconds.accepts v = true :=
    fun v hv => Schema.accepts_member h (by simp) hv
  have hmake (batchPause keyDelay : Float)
      (hb : Has payload "batch_pause" (·.seconds = .ok batchPause) (batchPause = 0) ∧
        (¬ (0 : Float) < 0 → ¬ batchPause < 0))
      (hk : Has payload "key_delay" (·.seconds = .ok keyDelay) (keyDelay = 0) ∧
        (¬ (0 : Float) < 0 → ¬ keyDelay < 0)) :
      Loads False (IsTiming payload) (ReplayTiming.make batchPause keyDelay) := by
    have hb' := hb.2 Double.not_zero_lt_zero
    have hk' := hk.2 Double.not_zero_lt_zero
    rw [ReplayTiming.make, if_neg (by simp [hb', hk'])]
    exact .of_ok ⟨hb.1, hk.1⟩
  rw [timingOf]
  exact ((loads_secondsOr hbatch).bind fun batchPause hb =>
    (loads_secondsOr hkey).bind (hmake batchPause · hb)).congr (by rw [or_false])

/-- The pauses of a record that may have some. -/
theorem loads_timingOf? (h : ∀ v, object.get? "timing" = some v → Schema.timing.accepts v = true) :
    Loads (HasBeyondPause object)
      (fun timing => Has object "timing" (fun v => ∃ given, timing = some given ∧ IsTiming v given)
        (timing = none))
      (timingOf? object) := by
  cases hget : object.get? "timing" with
  | none =>
    refine Or.inr ⟨not_hasBeyondPause hget, none, ?_, Has.of_none hget rfl⟩
    rw [timingOf?, hget]
  | some v =>
    have hbeyond : (IsBeyond v "batch_pause" ∨ IsBeyond v "key_delay") ↔ HasBeyondPause object := by
      simp [HasBeyondPause, hget]
    have hmap : timingOf? object = timingOf v >>= fun given => .ok (some given) := by
      rw [timingOf?, hget]
      dsimp only
      cases timingOf v with
      | error fault => rfl
      | ok given => rfl
    rw [hmap]
    refine ((loads_timingOf (h v hget)).map fun given hgiven => ?_).congr hbeyond
    exact Has.of_some hget ⟨given, rfl, hgiven⟩

theorem loads_terminalSizeOr {default : TerminalSize}
    (h : ∀ v, object.get? key = some v → Schema.terminalSize.accepts v = true) :
    Loads False (fun size => Has object key (IsSize · size) (size = default))
      (object.terminalSizeOr key default) := by
  rw [Json.terminalSizeOr]
  cases hget : object.get? key with
  | none => exact .of_ok (Has.of_none hget rfl)
  | some v =>
    obtain ⟨size, hsize, his⟩ := terminalSize_of_counts
      (Schema.exists_member (h v hget) (by simp) (by simp))
      (Schema.exists_member (h v hget) (by simp) (by simp))
    dsimp only
    rw [hsize]
    exact .of_ok (Has.of_some hget his)

end Seconds

end Scenario

end TermPilot
