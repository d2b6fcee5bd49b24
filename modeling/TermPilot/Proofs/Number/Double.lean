import TermPilot.Number.Double

/-!
# Whole numbers as doubles

Half a step above the greatest double lies the least number that is rounded beyond all doubles. From
there on a whole number has no nearest double; below, the nearest double of a number that is not
negative is not negative.
-/

namespace TermPilot.Double

/-! ## Rounding -/

section Rounding

theorem le_roundDiv (num den : Nat) : num / den ≤ roundDiv num den := by
  unfold roundDiv
  dsimp only
  split
  · omega
  · split <;> omega

theorem roundDiv_le (num den : Nat) : roundDiv num den ≤ num / den + 1 := by
  unfold roundDiv
  dsimp only
  split
  · omega
  · split <;> omega

/-- A ratio is rounded to at most an odd number if it is below the middle between this number and
the next. -/
theorem roundDiv_le_iff {num half bound : Nat} (hhalf : 0 < half) (hodd : bound % 2 = 1) :
    roundDiv num (2 * half) ≤ bound ↔ num < 2 * (half * bound) + half := by
  have hnum : 2 * (half * (num / (2 * half))) + num % (2 * half) = num := by
    rw [← Nat.mul_assoc]
    exact Nat.div_add_mod num (2 * half)
  have hrest : num % (2 * half) < 2 * half := Nat.mod_lt _ (by omega)
  have hround := roundDiv_le num (2 * half)
  have hround' := le_roundDiv num (2 * half)
  rcases Nat.lt_trichotomy (num / (2 * half)) bound with hlt | heq | hgt
  · have hstep : half * (num / (2 * half)) + half ≤ half * bound :=
      Nat.mul_le_mul_left half hlt
    omega
  · -- the middle itself is rounded up, to the even neighbour
    unfold roundDiv
    dsimp only
    rw [heq] at hnum ⊢
    split
    · omega
    · split <;> omega
  · have hstep : half * bound + half ≤ half * (num / (2 * half)) :=
      Nat.mul_le_mul_left half hgt
    omega

/-- Scaled by an exponent below that of the number, a number has as many binary digits before its
point as the exponents are apart, and one more. -/
theorem scaleDown_bounds {num places : Nat} {exponent : Int} (hnum : num ≠ 0)
    (hplaces : exponent + places = num.log2) :
    Nat.pow 2 places ≤ (scaleDown num 1 exponent).1 / (scaleDown num 1 exponent).2 ∧
      (scaleDown num 1 exponent).1 / (scaleDown num 1 exponent).2 < Nat.pow 2 (places + 1) := by
  have hlow := Nat.log2_self_le hnum
  have hhigh := Nat.lt_log2_self (n := num)
  simp only [scaleDown, Nat.pow_eq, Nat.one_mul]
  rcases Int.le_total 0 exponent with hnonneg | hneg
  · obtain ⟨k, rfl⟩ := Int.eq_ofNat_of_zero_le hnonneg
    have hlog : num.log2 = places + k := by omega
    have hzero : (-(k : Int)).toNat = 0 := by omega
    rw [hlog] at hlow hhigh
    rw [hzero, Int.toNat_natCast, Nat.pow_zero, Nat.mul_one]
    constructor
    · rw [Nat.le_div_iff_mul_le (Nat.two_pow_pos k), ← Nat.pow_add]
      exact hlow
    · rw [Nat.div_lt_iff_lt_mul (Nat.two_pow_pos k), ← Nat.pow_add]
      rwa [Nat.add_right_comm]
  · obtain ⟨k, hk⟩ := Int.eq_ofNat_of_zero_le (Int.neg_nonneg_of_nonpos hneg)
    have hplaces' : places = num.log2 + k := by omega
    have hzero : exponent.toNat = 0 := by omega
    rw [hk, hzero, Int.toNat_natCast, Nat.pow_zero, Nat.div_one, hplaces', Nat.pow_add,
      Nat.add_right_comm, Nat.pow_add]
    constructor
    · exact Nat.mul_le_mul_right _ hlow
    · exact Nat.mul_lt_mul_of_pos_right hhigh (Nat.two_pow_pos k)

/-- The bits of a whole number: its exponent, and its first binary digits, rounded. -/
theorem bitsOfRatio_one {num : Nat} (hnum : num ≠ 0) :
    bitsOfRatio num 1 =
      let scaled := scaleDown num 1 (num.log2 - 52)
      let bits := (num.log2 + 1022) * 0x10000000000000 + roundDiv scaled.1 scaled.2
      if bits < 0x7FF0000000000000 then some bits else none := by
  have hone : Nat.log2 1 = 0 := by decide
  have hpositive : ¬ (decide (num = 0) || decide (1 = 0)) = true := by simp [hnum]
  have hguess : (scaleDown num 1 (num.log2 - (0 : Nat) - 53)).1 /
      (scaleDown num 1 (num.log2 - (0 : Nat) - 53)).2 ≥ Nat.pow 2 53 := by
    have hplaces : ((num.log2 : Int) - (0 : Nat) - 53) + (53 : Nat) = num.log2 := by omega
    exact (scaleDown_bounds hnum hplaces).1
  have hexponent : max ((num.log2 : Int) - (0 : Nat) - 53 + 1) (-1074) = num.log2 - 52 := by omega
  have hbiased : ((num.log2 : Int) - 52 + 1074).toNat = num.log2 + 1022 := by omega
  have hpower : Nat.pow 2 52 = 0x10000000000000 := rfl
  rw [bitsOfRatio, if_neg hpositive, hone]
  dsimp only
  rw [if_pos hguess, hexponent, hbiased, hpower]

/-- The least whole number that is rounded beyond all doubles: it lies half a step above the
greatest double. -/
def limit : Nat := Nat.pow 2 1024 - Nat.pow 2 970

/-- The greatest double has a significand of 53 binary ones. -/
theorem limit_eq : limit = 2 * (Nat.pow 2 970 * 0x1FFFFFFFFFFFFF) + Nat.pow 2 970 := by
  unfold limit
  generalize hlow : 970 = low
  generalize htop : 1024 = top
  have hsum : top = 54 + low := by omega
  have hpower : Nat.pow 2 (54 + low) = 0x40000000000000 * Nat.pow 2 low := Nat.pow_add 2 54 low
  rw [hsum, hpower]
  generalize Nat.pow 2 low = step
  omega

/-- Whole numbers with at most 53 binary digits are below the limit. -/
theorem lt_limit {n : Nat} (h : n < 0x20000000000000) : n < limit := by
  rw [limit_eq]
  generalize 970 = low
  have hstep : 0 < Nat.pow 2 low := Nat.two_pow_pos low
  generalize Nat.pow 2 low = step at *
  omega

theorem scaleDown_middle (num : Nat) :
    scaleDown num 1 ((1023 : Nat) - 52) = (num, 2 * Nat.pow 2 970) := by
  have hexponent : ((1023 : Nat) : Int) - 52 = (970 + 1 : Nat) := rfl
  generalize 970 = low at *
  have hpower : Nat.pow 2 (low + 1) = 2 * Nat.pow 2 low := Nat.mul_comm _ 2
  rw [hexponent, scaleDown, Int.toNat_natCast, Int.toNat_neg_natCast, Nat.one_mul, hpower,
    Nat.pow_eq, Nat.pow_zero, Nat.mul_one]

theorem bitsOfRatio_one_eq_none_iff {num : Nat} (hnum : num ≠ 0) :
    bitsOfRatio num 1 = none ↔ limit ≤ num := by
  have hlimit := limit_eq
  have hlow : Nat.pow 2 num.log2 ≤ num := Nat.log2_self_le hnum
  have hhigh : num < Nat.pow 2 (num.log2 + 1) := Nat.lt_log2_self
  have hplaces : ((num.log2 : Int) - 52) + (52 : Nat) = num.log2 := by omega
  have hdigits : 0x10000000000000 ≤ _ ∧ _ < 0x20000000000000 := scaleDown_bounds hnum hplaces
  have hbelow := le_roundDiv (scaleDown num 1 (num.log2 - 52)).1 (scaleDown num 1 (num.log2 - 52)).2
  have habove := roundDiv_le (scaleDown num 1 (num.log2 - 52)).1 (scaleDown num 1 (num.log2 - 52)).2
  rw [bitsOfRatio_one hnum]
  dsimp only
  rw [ite_eq_right_iff]
  simp only [reduceCtorEq, imp_false, Nat.not_lt]
  rcases Nat.lt_trichotomy num.log2 1023 with hsmall | hmiddle | hlarge
  · generalize hlow : 970 = low at *
    have hpower : Nat.pow 2 (num.log2 + 1) ≤ Nat.pow 2 (53 + low) :=
      Nat.pow_le_pow_right (by decide) (by omega)
    have hsplit : Nat.pow 2 (53 + low) = 0x20000000000000 * Nat.pow 2 low := Nat.pow_add 2 53 low
    rw [hsplit] at hpower
    generalize Nat.pow 2 low = step at *
    generalize Nat.pow 2 (num.log2 + 1) = next at *
    omega
  · -- only here the rounding decides
    have hodd : 0x1FFFFFFFFFFFFF % 2 = 1 := rfl
    rw [hmiddle, scaleDown_middle]
    dsimp only
    rw [hlimit]
    generalize 970 = low
    have hstep : 0 < Nat.pow 2 low := Nat.two_pow_pos low
    generalize Nat.pow 2 low = step at *
    have hround : roundDiv num (2 * step) ≤ 0x1FFFFFFFFFFFFF ↔ _ :=
      roundDiv_le_iff hstep hodd
    omega
  · generalize hlow : 970 = low at *
    have hpower : Nat.pow 2 (54 + low) ≤ Nat.pow 2 num.log2 :=
      Nat.pow_le_pow_right (by decide) (by omega)
    have hsplit : Nat.pow 2 (54 + low) = 0x40000000000000 * Nat.pow 2 low := Nat.pow_add 2 54 low
    rw [hsplit] at hpower
    generalize Nat.pow 2 low = step at *
    generalize Nat.pow 2 num.log2 = first at *
    omega

end Rounding

/-- A whole number has no nearest double exactly from the limit on. -/
theorem ofInt_eq_none_iff (n : Int) : ofInt n = none ↔ limit ≤ n.natAbs := by
  rw [ofInt, ofRatio, Option.map_eq_none_iff]
  by_cases hzero : n.natAbs = 0
  · have hsome : bitsOfRatio 0 1 = some 0 := rfl
    have hlimit : 0 < limit := lt_limit (by decide)
    rw [hzero, hsome]
    simp only [reduceCtorEq, false_iff]
    omega
  · exact bitsOfRatio_one_eq_none_iff hzero

/-! ## Signs -/

section Signs

open Float.Model (Format UnpackedFloat)
open Float.Model.UnpackedFloat

variable {spec : Format}

/-- The double is no number, or its sign is that of positive numbers. -/
def IsUnsigned : UnpackedFloat → Prop
  | .notANumber => True
  | .infinity sign | .zero sign | .finite sign .. => sign = .positive

theorem unpackSign_packComponents {sign exponent mantissa} :
    unpackSign (packComponents spec sign exponent mantissa) = sign.toBitVec := by
  ext i hi
  have hplace : spec.mantissaBitsWithoutImplicit + spec.exponentBits + i -
      spec.mantissaBitsWithoutImplicit - spec.exponentBits = i := by omega
  unfold unpackSign packComponents
  simp only [BitVec.getElem_cast, BitVec.extractLsb, BitVec.getElem_extractLsb',
    BitVec.getLsbD_append]
  rw [if_neg (by omega), if_neg (by omega), hplace, BitVec.getLsbD_eq_getElem]

theorem isUnsigned_unpack {b : BitVec spec.numBits} (h : unpackSign b = 0#1) :
    IsUnsigned (unpack spec b) := by
  have hsign : Sign.ofBitVec (unpackSign b) = .positive := by
    rw [h]
    rfl
  unfold unpack
  refine iteInduction (fun _ => ?_) fun _ => ?_
  · exact iteInduction (fun _ => hsign) fun _ => trivial
  · refine iteInduction (fun _ => ?_) fun _ => hsign
    by_cases hzero : unpackMantissa b = BitVec.ofNat _ 0
    · rw [dif_pos hzero]
      exact hsign
    · rw [dif_neg hzero]
      exact hsign

theorem unpackSign_pack {x : UnpackedFloat} (h : IsUnsigned x) :
    unpackSign (pack spec x) = 0#1 := by
  cases x with
  | notANumber => exact unpackSign_packComponents
  | infinity sign =>
    obtain rfl : sign = .positive := h
    exact unpackSign_packComponents
  | zero sign =>
    obtain rfl : sign = .positive := h
    exact unpackSign_packComponents
  | finite sign mantissa exponent hmantissa =>
    obtain rfl : sign = .positive := h
    unfold pack
    dsimp only
    split
    · exact unpackSign_packComponents
    · split
      · exact unpackSign_packComponents
      · exact unpackSign_packComponents

theorem not_lt_zero_of_isUnsigned {x : UnpackedFloat} (h : IsUnsigned x) :
    x.lt (.zero .positive) = false := by
  cases x with
  | notANumber => rfl
  | infinity sign =>
    obtain rfl : sign = .positive := h
    rfl
  | zero sign => rfl
  | finite sign mantissa exponent hmantissa =>
    obtain rfl : sign = .positive := h
    rfl

theorem unpack_zero : (0 : Float).toModel.unpack = .zero .positive := rfl

theorem not_lt_zero {x : Float} (h : IsUnsigned x.toModel.unpack) : ¬ x < 0 := by
  have hbelow := not_lt_zero_of_isUnsigned h
  rw [← unpack_zero] at hbelow
  intro hlt
  have habove : x.toModel.unpack.lt (0 : Float).toModel.unpack = true := of_decide_eq_true hlt
  rw [hbelow] at habove
  cases habove

theorem not_zero_lt_zero : ¬ (0 : Float) < 0 := by
  refine not_lt_zero ?_
  rw [unpack_zero]
  rfl

/-- A double without the sign bit is not below zero. -/
theorem not_ofBits_lt_zero {bits : Nat} (h : bits < 0x8000000000000000) :
    ¬ Float.ofBits bits.toUInt64 < 0 := by
  let b : BitVec Format.binary64.numBits := bits.toUInt64.toBitVec
  have hsign : unpackSign b = 0#1 := by
    apply BitVec.eq_of_toNat_eq
    unfold unpackSign
    simp [b, BitVec.extractLsb]
    omega
  exact not_lt_zero (isUnsigned_unpack (unpackSign_pack (isUnsigned_unpack hsign)))

end Signs

theorem bitsOfRatio_lt {num den bits : Nat} (h : bitsOfRatio num den = some bits) :
    bits < 0x7FF0000000000000 := by
  unfold bitsOfRatio at h
  split at h
  · obtain rfl := Option.some.inj h
    decide
  · dsimp only at h
    rw [Option.ite_none_right_eq_some] at h
    obtain ⟨hbits, heq⟩ := h
    rwa [Option.some.inj heq] at hbits

/-- The double nearest to a number that is not negative is not below zero. -/
theorem not_lt_zero_of_ofInt {n : Int} {x : Float} (hn : 0 ≤ n) (h : ofInt n = some x) :
    ¬ x < 0 := by
  rw [ofInt, ofRatio] at h
  obtain ⟨bits, hbits, rfl⟩ := Option.map_eq_some_iff.mp h
  have hnonneg : ¬ decide (n < 0) = true := by simpa using hn
  have hlt := bitsOfRatio_lt hbits
  rw [if_neg hnonneg, Nat.zero_add]
  exact not_ofBits_lt_zero (by omega)

end TermPilot.Double
