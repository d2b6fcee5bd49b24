import TermPilot.Proofs.Number.Double
import TermPilot.Proofs.Number.Grid

/-!
# Rounding to 53 binary digits

A whole number is rounded to the nearest multiple of a power of two, so that 53 binary digits are
left of it, a tie going to the even multiple. Such rounding never turns an order around, since it
leaves the powers of two alone and is one division between two of them.

The rounding of a double drops one binary digit after the other, and keeps of the dropped ones only
whether they are nothing, less than a half, a half or more. That is enough to tell which way to
round, so that the outcome is the same.
-/

namespace TermPilot.Double

/-! ## Multiples -/

section Multiples

variable {a b d m n : Nat}

theorem roundDiv_mul_self (n : Nat) (hd : 0 < d) : roundDiv (n * d) d = n := by
  unfold roundDiv
  dsimp only
  rw [Nat.mul_div_cancel n hd, Nat.mul_mod_left]
  split_ifs <;> omega

theorem roundDiv_mono (h : a ≤ b) (d : Nat) : roundDiv a d ≤ roundDiv b d := by
  rcases Nat.eq_or_lt_of_le (Nat.div_le_div_right h : a / d ≤ b / d) with heq | hlt
  · -- with one quotient the remainders are in the order of the numbers
    have ha := Nat.div_add_mod a d
    have hb := Nat.div_add_mod b d
    rw [heq] at ha
    have hmod : a % d ≤ b % d := by omega
    unfold roundDiv
    dsimp only
    rw [heq]
    split_ifs <;> omega
  · calc roundDiv a d ≤ a / d + 1 := roundDiv_le a d
      _ ≤ b / d := hlt
      _ ≤ roundDiv b d := le_roundDiv b d

theorem roundDiv_mul_right (n d : Nat) {c : Nat} (hc : 0 < c) :
    roundDiv (n * c) (d * c) = roundDiv n d := by
  have hdiv : n * c / (d * c) = n / d := Nat.mul_div_mul_right n d hc
  have hmod : n * c % (d * c) = n % d * c := Nat.mul_mod_mul_right c n d
  have hgt : 2 * (n % d * c) > d * c ↔ 2 * (n % d) > d := by
    rw [← Nat.mul_assoc]
    exact Nat.mul_lt_mul_right hc
  have heq : 2 * (n % d * c) = d * c ↔ 2 * (n % d) = d := by
    rw [← Nat.mul_assoc]
    exact Nat.mul_left_inj hc.ne'
  unfold roundDiv
  dsimp only
  rw [hdiv, hmod]
  simp only [hgt, heq]

/-- The multiple of `d` that is nearest to a number. -/
def roundTo (d n : Nat) : Nat := roundDiv n d * d

theorem roundTo_eq_self (hd : 0 < d) (h : d ∣ n) : roundTo d n = n := by
  obtain ⟨q, rfl⟩ := h
  rw [roundTo, Nat.mul_comm d q, roundDiv_mul_self q hd]

theorem roundTo_mono (h : a ≤ b) (d : Nat) : roundTo d a ≤ roundTo d b :=
  Nat.mul_le_mul_right d (roundDiv_mono h d)

end Multiples

/-! ## Binary digits -/

section Digits

variable {a b n : Nat}

/-- The number of binary digits of a number beyond the 53rd. -/
def excess (n : Nat) : Nat := n.log2 - 52

/-- The number with 53 binary digits that is nearest to a number. -/
def rounded (n : Nat) : Nat := roundTo (2 ^ excess n) n

theorem log2_mul_two_pow (hn : n ≠ 0) (k : Nat) : (n * 2 ^ k).log2 = n.log2 + k := by
  induction k with
  | zero => rw [Nat.pow_zero, Nat.mul_one, Nat.add_zero]
  | succ k ih =>
    have hne : n * 2 ^ k ≠ 0 := Nat.mul_ne_zero hn (Nat.two_pow_pos k).ne'
    rw [Nat.pow_succ, ← Nat.mul_assoc, Nat.mul_comm _ 2, Nat.log2_two_mul hne, ih]
    omega

theorem excess_mul_le (h : n < 2 ^ 53) (k : Nat) : excess (n * 2 ^ k) ≤ k := by
  by_cases hn : n = 0
  · rw [hn, Nat.zero_mul]
    exact Nat.zero_le k
  · have hlog := (Nat.log2_lt hn).mpr h
    rw [excess, log2_mul_two_pow hn]
    omega

/-- Rounding leaves a number alone that has 53 binary digits and then zeros. -/
theorem rounded_mul_two_pow (h : n < 2 ^ 53) (k : Nat) : rounded (n * 2 ^ k) = n * 2 ^ k :=
  roundTo_eq_self (Nat.two_pow_pos _) ((Nat.pow_dvd_pow 2 (excess_mul_le h k)).mul_left n)

theorem rounded_eq_self (h : n < 2 ^ 53) : rounded n = n := by
  have hround := rounded_mul_two_pow h 0
  rwa [Nat.pow_zero, Nat.mul_one] at hround

/-- Rounding goes up to the next power of two at most. -/
theorem rounded_le (n : Nat) : rounded n ≤ 2 ^ (n.log2 + 1) := by
  have hle : excess n ≤ n.log2 + 1 := by
    unfold excess
    omega
  rw [rounded, ← roundTo_eq_self (Nat.two_pow_pos (excess n)) (Nat.pow_dvd_pow 2 hle)]
  exact roundTo_mono (Nat.lt_log2_self).le _

/-- Rounding goes down to a power of two at most. -/
theorem le_rounded (hn : n ≠ 0) : 2 ^ n.log2 ≤ rounded n := by
  have hle : excess n ≤ n.log2 := Nat.sub_le _ _
  rw [rounded, ← roundTo_eq_self (Nat.two_pow_pos (excess n)) (Nat.pow_dvd_pow 2 hle)]
  exact roundTo_mono (Nat.log2_self_le hn) _

theorem rounded_mono (h : a ≤ b) : rounded a ≤ rounded b := by
  by_cases ha : a = 0
  · rw [ha, rounded_eq_self (by decide)]
    exact Nat.zero_le _
  · have hb : b ≠ 0 := by omega
    have hlog : a.log2 ≤ b.log2 := (Nat.le_log2 hb).mpr ((Nat.log2_self_le ha).trans h)
    rcases Nat.eq_or_lt_of_le hlog with heq | hlt
    · rw [rounded, rounded, excess, excess, heq]
      exact roundTo_mono h _
    · calc rounded a ≤ 2 ^ (a.log2 + 1) := rounded_le a
        _ ≤ 2 ^ b.log2 := Nat.pow_le_pow_right (by decide) hlt
        _ ≤ rounded b := le_rounded hb

/-- What is left of a number has 53 binary digits, or is the next power of two. -/
theorem roundDiv_excess_le (n : Nat) : roundDiv n (2 ^ excess n) ≤ 2 ^ 53 := by
  have hle : n.log2 + 1 ≤ 53 + excess n := by
    unfold excess
    omega
  have hn : n ≤ 2 ^ 53 * 2 ^ excess n := by
    rw [← Nat.pow_add]
    exact (Nat.lt_log2_self).le.trans (Nat.pow_le_pow_right (by decide) hle)
  calc roundDiv n (2 ^ excess n) ≤ roundDiv (2 ^ 53 * 2 ^ excess n) (2 ^ excess n) :=
        roundDiv_mono hn _
    _ = 2 ^ 53 := roundDiv_mul_self _ (Nat.two_pow_pos _)

/-- If digits are dropped, then 53 are left. -/
theorem le_roundDiv_excess (h : excess n ≠ 0) : 2 ^ 52 ≤ roundDiv n (2 ^ excess n) := by
  have hlog : n.log2 = 52 + excess n := by
    unfold excess at h ⊢
    omega
  have hn : n ≠ 0 := by
    rintro rfl
    exact h rfl
  have hle : 2 ^ 52 * 2 ^ excess n ≤ n := by
    rw [← Nat.pow_add, ← hlog]
    exact Nat.log2_self_le hn
  calc 2 ^ 52 = roundDiv (2 ^ 52 * 2 ^ excess n) (2 ^ excess n) :=
        (roundDiv_mul_self _ (Nat.two_pow_pos _)).symm
    _ ≤ roundDiv n (2 ^ excess n) := roundDiv_mono hle _

end Digits

/-! ## Dropping digits -/

section Dropping

open Float.Model (Format UnpackedFloat totalExponent)
open Float.Model.UnpackedFloat

variable {m e : Nat}

/-- A number with `k` binary digits dropped, and whether these are a half or more, and whether they
are neither nothing nor a half. -/
def dropped (m k : Nat) : ExtendedMantissa where
  mantissa := m / 2 ^ k
  roundBit := decide (2 ^ k ≤ 2 * (m % 2 ^ k))
  stickyBit := decide (2 * (m % 2 ^ k) % 2 ^ k ≠ 0)

theorem dropped_zero (m : Nat) : dropped m 0 = ⟨m, false, false⟩ := by
  simp [dropped, Nat.mod_one]

theorem shiftRightOne_dropped (m k : Nat) : (dropped m k).shiftRightOne = dropped m (k + 1) := by
  have hpow : 2 ^ (k + 1) = 2 * 2 ^ k := Nat.pow_succ'
  have hmod : m % 2 ^ (k + 1) = m % 2 ^ k + 2 ^ k * (m / 2 ^ k % 2) := by
    rw [Nat.pow_succ, Nat.mod_mul]
  have hlt : m % 2 ^ k < 2 ^ k := Nat.mod_lt _ (Nat.two_pow_pos k)
  have hhalf : m / 2 ^ k % 2 = 0 ∨ m / 2 ^ k % 2 = 1 := Nat.mod_two_eq_zero_or_one _
  have hmantissa : m / 2 ^ k / 2 = m / 2 ^ (k + 1) := by
    rw [Nat.div_div_eq_div_mul, Nat.pow_succ]
  have hround : (m / 2 ^ k % 2 != 0) = decide (2 ^ (k + 1) ≤ 2 * (m % 2 ^ (k + 1))) := by
    rw [hmod, hpow, Bool.eq_iff_iff, bne_iff_ne, decide_eq_true_iff]
    rcases hhalf with hdigit | hdigit
    · rw [hdigit]
      omega
    · rw [hdigit]
      omega
  have hsticky : (decide (2 ^ k ≤ 2 * (m % 2 ^ k)) || decide (2 * (m % 2 ^ k) % 2 ^ k ≠ 0)) =
      decide (2 * (m % 2 ^ (k + 1)) % 2 ^ (k + 1) ≠ 0) := by
    -- the digit that is the next to be told apart does not count
    have hrest : 2 * (m % 2 ^ (k + 1)) % 2 ^ (k + 1) = 2 * (m % 2 ^ k) := by
      rw [hmod, hpow, Nat.mul_mod_mul_left, Nat.add_mul_mod_self_left, Nat.mod_eq_of_lt hlt]
    rw [hrest, Bool.eq_iff_iff, Bool.or_eq_true, decide_eq_true_iff, decide_eq_true_iff,
      decide_eq_true_iff]
    by_cases hle : 2 ^ k ≤ 2 * (m % 2 ^ k)
    · exact iff_of_true (.inl hle) (by omega)
    · rw [Nat.mod_eq_of_lt (Nat.lt_of_not_le hle)]
      omega
  rw [ExtendedMantissa.shiftRightOne]
  simp only [dropped]
  rw [hmantissa, hround, hsticky]

/-- The digits are dropped one after the other. -/
theorem shiftRight_eq_dropped (m k : Nat) :
    (⟨m, false, false⟩ : ExtendedMantissa) >>> k = dropped m k := by
  induction k with
  | zero => rw [dropped_zero]; rfl
  | succ k ih =>
    rw [← shiftRightOne_dropped, ← ih]
    rfl

/-- What is known of the dropped digits is enough to round to the nearest. -/
theorem roundedMantissa_dropped (m k : Nat) :
    (dropped m k).roundedMantissa = roundDiv m (2 ^ k) := by
  have hlt : m % 2 ^ k < 2 ^ k := Nat.mod_lt _ (Nat.two_pow_pos k)
  rw [ExtendedMantissa.roundedMantissa, dropped, roundDiv]
  generalize 2 ^ k = d at *
  rcases Nat.lt_trichotomy (2 * (m % d)) d with hless | hhalf | hmore
  · have hmod : 2 * (m % d) % d = 2 * (m % d) := Nat.mod_eq_of_lt hless
    have hround : decide (d ≤ 2 * (m % d)) = false := decide_eq_false (Nat.not_le.mpr hless)
    rw [hround, hmod, if_neg (by omega), if_neg (by omega)]
    -- the rest may be nothing or something
    by_cases hzero : 2 * (m % d) = 0
    · rw [decide_eq_false (not_not.mpr hzero)]
      rfl
    · rw [decide_eq_true hzero]
      rfl
  · have hmod : 2 * (m % d) % d = 0 := by rw [hhalf, Nat.mod_self]
    rw [hmod, decide_eq_true hhalf.ge, if_neg (by omega), if_pos hhalf]
    rfl
  · have hmod : 2 * (m % d) % d = 2 * (m % d) - d := by
      rw [Nat.mod_eq_sub_mod hmore.le, Nat.mod_eq_of_lt (by omega)]
    rw [decide_eq_true hmore.le, hmod, decide_eq_true (by omega), if_pos hmore]
    rfl

end Dropping

/-! ## Rounding on the grid -/

section Round

open Float.Model (Format UnpackedFloat totalExponent)
open Float.Model.UnpackedFloat

variable {m : Nat} {e : Int}

theorem log2_magnitude (hm : 0 < m) (e : Int) :
    (magnitude m e).log2 = m.log2 + (e + 1074).toNat :=
  log2_mul_two_pow hm.ne' _

theorem targetExponent_eq (hm : 0 < m) (he : -1074 ≤ e) :
    Format.binary64.targetExponent (totalExponent m e) = excess (magnitude m e) - 1074 := by
  have hbits : (Format.binary64.mantissaBits : Int) = 53 := rfl
  have hleast : Format.binary64.minExponent = -1074 := rfl
  rw [Format.targetExponent, totalExponent, hbits, hleast, excess, log2_magnitude hm]
  omega

theorem shiftToTargetExponent_eq (hm : 0 < m) (he : -1074 ≤ e) :
    shiftToTargetExponent .binary64 m e .exact =
      let k := excess (magnitude m e) - (e + 1074).toNat
      (dropped m k, e + k) := by
  have hamount : (Format.binary64.targetExponent (totalExponent m e) - e).toNat =
      excess (magnitude m e) - (e + 1074).toNat := by
    rw [targetExponent_eq hm he]
    omega
  rw [shiftToTargetExponent, shiftToExponent, hamount]
  exact congrArg (·, _) (shiftRight_eq_dropped m _)

/-- Zeros that are taken into the mantissa leave the number as it is. -/
theorem magnitude_decreaseExponent {target : Int} (he : -1074 ≤ e) (ht : -1074 ≤ target) :
    magnitude (decreaseExponent m e target).1 (decreaseExponent m e target).2 = magnitude m e := by
  have hsum : (e - target).toNat + (e - (e - target).toNat + 1074).toNat = (e + 1074).toNat := by
    omega
  rw [decreaseExponent, magnitude, magnitude, ← hsum, Nat.shiftLeft_eq, Nat.pow_add, Nat.mul_assoc]

theorem decreaseExponent_le {target : Int} (he : -1074 ≤ e) (ht : -1074 ≤ target) :
    -1074 ≤ (decreaseExponent m e target).2 ∧ (decreaseExponent m e target).2 ≤ target := by
  rw [decreaseExponent]
  omega

/-- So many digits are dropped that the number is rounded. -/
theorem roundedMantissa_shift (h : (e + 1074).toNat ≤ excess (magnitude m e)) :
    (dropped m (excess (magnitude m e) - (e + 1074).toNat)).roundedMantissa =
      roundDiv (magnitude m e) (2 ^ excess (magnitude m e)) := by
  have hsplit : 2 ^ excess (magnitude m e) =
      2 ^ (excess (magnitude m e) - (e + 1074).toNat) * 2 ^ (e + 1074).toNat := by
    rw [← Nat.pow_add, Nat.sub_add_cancel h]
  rw [roundedMantissa_dropped]
  generalize excess (magnitude m e) - (e + 1074).toNat = k at *
  rw [hsplit, magnitude, roundDiv_mul_right m (2 ^ k) (Nat.two_pow_pos _)]

/-- A second shift drops a zero if all digits were ones and were rounded up, and else nothing. -/
theorem shift_rounded {n k : Nat} (hle : n ≤ 2 ^ 53) (hdigits : k = 0 ∨ 2 ^ 52 ≤ n) :
    ((shiftToTargetExponent .binary64 n (k - 1074) .exact).1.mantissa ≠ 0 →
      Fits (shiftToTargetExponent .binary64 n (k - 1074) .exact).1.mantissa
        (shiftToTargetExponent .binary64 n (k - 1074) .exact).2) ∧
    magnitude (shiftToTargetExponent .binary64 n (k - 1074) .exact).1.mantissa
      (shiftToTargetExponent .binary64 n (k - 1074) .exact).2 = n * 2 ^ k := by
  have hplaces : ((k : Int) - 1074 + 1074).toNat = k := by omega
  rcases Nat.eq_zero_or_pos n with rfl | hn
  · have hzero : (shiftToTargetExponent .binary64 0 (k - 1074) .exact).1.mantissa = 0 :=
      (congrArg ExtendedMantissa.mantissa (shiftRight_eq_dropped 0 _)).trans (Nat.zero_div _)
    rw [hzero, magnitude, Nat.zero_mul, Nat.zero_mul]
    exact ⟨fun h => absurd rfl h, rfl⟩
  · have hmagnitude : magnitude n (k - 1074) = n * 2 ^ k := by rw [magnitude, hplaces]
    rw [shiftToTargetExponent_eq hn (by omega), hmagnitude, hplaces]
    dsimp only
    rcases Nat.eq_or_lt_of_le hle with rfl | hlt
    · have hexcess : excess (2 ^ 53 * 2 ^ k) - k = 1 := by
        rw [excess, log2_mul_two_pow (by decide), Nat.log2_two_pow]
        omega
      have hhalf : (dropped (2 ^ 53) 1).mantissa = 2 ^ 52 := rfl
      have hplaces' : ((k : Int) - 1074 + (1 : Nat) + 1074).toNat = k + 1 := by omega
      rw [hexcess, hhalf, magnitude, hplaces', Nat.pow_succ 2 k]
      refine ⟨fun _ => ⟨by decide, by omega, .inr le_rfl⟩, ?_⟩
      omega
    · have hexcess : excess (n * 2 ^ k) - k = 0 := Nat.sub_eq_zero_of_le (excess_mul_le hlt k)
      rw [hexcess, dropped_zero, Int.natCast_zero, Int.add_zero]
      exact ⟨fun _ => ⟨hlt, by omega, hdigits.imp (by omega) id⟩, hmagnitude⟩

theorem roundWithAccuracy_place (hm : 0 < m) (he : -1074 ≤ e)
    (h : (e + 1074).toNat ≤ excess (magnitude m e)) (sign : Sign) :
    IsRounded (roundWithAccuracy .binary64 sign m e .exact) ∧
      place (roundWithAccuracy .binary64 sign m e .exact) =
        sign.apply (rounded (magnitude m e)) := by
  have hexponent : e + (excess (magnitude m e) - (e + 1074).toNat : Nat) =
      excess (magnitude m e) - 1074 := by omega
  rw [roundWithAccuracy, shiftToTargetExponent_eq hm he]
  dsimp only
  rw [roundedMantissa_shift h, hexponent]
  obtain ⟨hfits, hplace⟩ := shift_rounded (roundDiv_excess_le (magnitude m e))
    (or_iff_not_imp_left.mpr le_roundDiv_excess)
  generalize shiftToTargetExponent .binary64 (roundDiv (magnitude m e)
    (2 ^ excess (magnitude m e))) (excess (magnitude m e) - 1074) .exact = shifted at *
  rw [rounded, roundTo, ← hplace]
  split_ifs with hzero
  · rw [hzero, magnitude, Nat.zero_mul]
    refine ⟨.zero sign, ?_⟩
    cases sign <;> rfl
  · exact ⟨.finite (hfits hzero), rfl⟩

/-- A number that is rounded goes to the nearest place with 53 binary digits. -/
theorem round_place (hm : 0 < m) (he : -1074 ≤ e) (sign : Sign) :
    IsRounded (round .binary64 sign m e) ∧
      place (round .binary64 sign m e) = sign.apply (rounded (magnitude m e)) := by
  have htarget := targetExponent_eq hm he
  have hlow : -1074 ≤ Format.binary64.targetExponent (totalExponent m e) := by omega
  have hmagnitude := magnitude_decreaseExponent (m := m) he hlow
  obtain ⟨hlow', hhigh⟩ := decreaseExponent_le (m := m) he hlow
  have hm' : 0 < (decreaseExponent m e (Format.binary64.targetExponent (totalExponent m e))).1 := by
    rw [decreaseExponent, Nat.shiftLeft_eq]
    exact Nat.mul_pos hm (Nat.two_pow_pos _)
  rw [UnpackedFloat.round]
  dsimp only
  rw [htarget] at *
  generalize decreaseExponent m e (excess (magnitude m e) - 1074) = decreased at *
  rw [← hmagnitude]
  refine roundWithAccuracy_place hm' hlow' ?_ sign
  rw [hmagnitude]
  omega

end Round

end TermPilot.Double
