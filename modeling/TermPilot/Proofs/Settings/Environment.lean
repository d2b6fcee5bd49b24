import TermPilot.Proofs.Recording.Payload
import TermPilot.Settings.Environment

/-!
# What variables make of settings

A variable that is missing or empty gives nothing. Any other one gives a number of seconds that is
not below zero, or the settings are not made at all.
-/

namespace TermPilot

open Recording (bind_eq_ok)

variable {e : Environment} {name : String}

/-- The variable is there and not empty. -/
def Environment.Sets (e : Environment) (name : String) : Prop :=
  ∃ value, e.get? name = some value ∧ value ≠ []

theorem Environment.not_sets_of_none (h : e.get? name = none) : ¬ e.Sets name := by
  simp [Sets, h]

theorem Overrides.seconds_eq_ok {given : Option Float} (h : seconds e name = .ok given) :
    (¬ e.Sets name ∧ given = none) ∨
      ∃ value x, e.get? name = some value ∧ value ≠ [] ∧ Numeral.real? value = some x ∧ ¬ x < 0 ∧
        given = some x := by
  rw [seconds] at h
  cases hget : e.get? name with
  | none =>
    rw [hget] at h
    exact Or.inl ⟨Environment.not_sets_of_none hget, (Except.ok.inj h).symm⟩
  | some value =>
    rw [hget] at h
    cases value with
    | nil => exact Or.inl ⟨by simp [Environment.Sets, hget], (Except.ok.inj h).symm⟩
    | cons first rest =>
      dsimp only at h
      cases hreal : Numeral.real? (first :: rest) with
      | none =>
        rw [hreal] at h
        cases h
      | some x =>
        rw [hreal] at h
        dsimp only at h
        split_ifs at h with hneg
        exact Or.inr ⟨first :: rest, x, rfl, nofun, hreal, hneg, (Except.ok.inj h).symm⟩

/-- Settings in an environment are settings with the overrides that the variables give. -/
theorem Settings.inEnvironment_eq_ok {s t : Settings} (h : s.inEnvironment e = .ok t) :
    ∃ o : Overrides, Overrides.seconds e "TERM_HARNESS_KEY_DELAY" = .ok o.keyDelay ∧
      Overrides.seconds e "TERM_HARNESS_BATCH_PAUSE" = .ok o.batchPause ∧
      Overrides.seconds e "TERM_HARNESS_WAIT_TIMEOUT" = .ok o.waitTimeout ∧ t = s.override o := by
  obtain ⟨o, ho, h⟩ := bind_eq_ok.mp h
  obtain ⟨keyDelay, hkey, ho⟩ := bind_eq_ok.mp ho
  obtain ⟨batchPause, hbatch, ho⟩ := bind_eq_ok.mp ho
  obtain ⟨waitTimeout, hwait, ho⟩ := bind_eq_ok.mp ho
  obtain ⟨level, -, ho⟩ := bind_eq_ok.mp ho
  obtain rfl := Except.ok.inj ho
  exact ⟨_, hkey, hbatch, hwait, (Except.ok.inj h).symm⟩

end TermPilot
