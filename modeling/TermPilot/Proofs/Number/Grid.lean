import Mathlib

/-!
# Doubles on a grid

The finite doubles are multiples of the least positive one. Counted in such steps each of them has a
place among the whole numbers, and the infinities get the places that the next power of two would
have. Doubles are compared as their places are. What lies beyond the infinities is moved to them
when a number is made a double.
-/

namespace TermPilot.Double

open Float.Model (Format UnpackedFloat)
open Float.Model.UnpackedFloat

/-! ## Places -/

/-- The place of the infinity. -/
def top : Nat := Nat.pow 2 2098

/-- The place of a number with a mantissa and an exponent. -/
def magnitude (mantissa : Nat) (exponent : Int) : Nat := mantissa * 2 ^ (exponent + 1074).toNat

/-- The place of what is no number is of no account. -/
def place : UnpackedFloat → Int
  | .notANumber => 0
  | .infinity sign => sign.apply top
  | .zero _ => 0
  | .finite sign mantissa exponent _ => sign.apply (magnitude mantissa exponent)

/-- Mantissa and exponent go together: there are 53 binary digits, and fewer only with the least
exponent. -/
structure Fits (mantissa : Nat) (exponent : Int) : Prop where
  lt : mantissa < 2 ^ 53
  low : -1074 ≤ exponent
  digits : exponent = -1074 ∨ 2 ^ 52 ≤ mantissa

/-- Numbers that are rounded as doubles are. -/
inductive IsRounded : UnpackedFloat → Prop where
  | zero (sign : Sign) : IsRounded (.zero sign)
  | finite {sign : Sign} {mantissa : Nat} {exponent : Int} {h : 0 < mantissa}
      (hfits : Fits mantissa exponent) : IsRounded (.finite sign mantissa exponent h)

/-- What bits stand for. -/
inductive IsDouble : UnpackedFloat → Prop where
  | notANumber : IsDouble .notANumber
  | infinity (sign : Sign) : IsDouble (.infinity sign)
  | rounded {u : UnpackedFloat} (h : IsRounded u) (hlt : (place u).natAbs < top) : IsDouble u

section Magnitude

variable {m n : Nat} {e f : Int}

theorem natAbs_apply (sign : Sign) (n : Int) : (sign.apply n).natAbs = n.natAbs := by
  cases sign with
  | negative => exact Int.natAbs_neg n
  | positive => rfl

/-- The infinity lies behind the greatest mantissa with the greatest exponent. -/
theorem top_eq {low : Nat} (h : 2045 = low) : top = 2 ^ 53 * 2 ^ low := by
  unfold top
  generalize htop : 2098 = high
  have hsum : high = 53 + low := by omega
  rw [hsum]
  exact Nat.pow_add 2 53 low

theorem top_pos : 0 < top := by
  unfold top
  generalize 2098 = high
  exact Nat.two_pow_pos high

/-- With a greater exponent a number is greater. -/
theorem Fits.magnitude_lt (h : Fits m e) (h' : Fits n f) (hlt : e < f) :
    magnitude m e < magnitude n f := by
  have hn : 2 ^ 52 ≤ n := by
    have hlow := h.low
    have hdigits := h'.digits
    omega
  have hsteps : (e + 1074).toNat + 53 ≤ 52 + (f + 1074).toNat := by
    have hlow := h.low
    omega
  calc m * 2 ^ (e + 1074).toNat < 2 ^ 53 * 2 ^ (e + 1074).toNat :=
        Nat.mul_lt_mul_of_pos_right h.lt (Nat.two_pow_pos _)
    _ = 2 ^ ((e + 1074).toNat + 53) := by rw [Nat.pow_add, Nat.mul_comm]
    _ ≤ 2 ^ (52 + (f + 1074).toNat) := Nat.pow_le_pow_right (by decide) hsteps
    _ = 2 ^ 52 * 2 ^ (f + 1074).toNat := Nat.pow_add ..
    _ ≤ n * 2 ^ (f + 1074).toNat := Nat.mul_le_mul_right _ hn

theorem Fits.compare_eq (h : Fits m e) (h' : Fits n f) :
    (compare e f).then (compare m n) = compare (magnitude m e : Int) (magnitude n f) := by
  rcases lt_trichotomy e f with hlt | rfl | hgt
  · have hmagnitude := Int.ofNat_lt.mpr (h.magnitude_lt h' hlt)
    rw [compare_lt_iff_lt.mpr hlt, compare_lt_iff_lt.mpr hmagnitude]
    rfl
  · have hpos := Nat.two_pow_pos (e + 1074).toNat
    rw [compare_eq_iff_eq.mpr rfl]
    unfold magnitude
    rcases lt_trichotomy m n with hlt | rfl | hgt
    · have hmagnitude := Int.ofNat_lt.mpr (Nat.mul_lt_mul_of_pos_right hlt hpos)
      rw [compare_lt_iff_lt.mpr hlt, compare_lt_iff_lt.mpr hmagnitude]
      rfl
    · rw [compare_eq_iff_eq.mpr rfl, compare_eq_iff_eq.mpr rfl]
      rfl
    · have hmagnitude := Int.ofNat_lt.mpr (Nat.mul_lt_mul_of_pos_right hgt hpos)
      rw [compare_gt_iff_gt.mpr hgt, compare_gt_iff_gt.mpr hmagnitude]
      rfl
  · have hmagnitude := Int.ofNat_lt.mpr (h'.magnitude_lt h hgt)
    rw [compare_gt_iff_gt.mpr hgt, compare_gt_iff_gt.mpr hmagnitude]
    rfl

theorem magnitude_pos (h : 0 < m) (e : Int) : 0 < magnitude m e :=
  Nat.mul_pos h (Nat.two_pow_pos _)

/-- Below the place of the infinity are the exponents of finite doubles. -/
theorem Fits.magnitude_lt_top_iff (h : Fits m e) : magnitude m e < top ↔ e ≤ 971 := by
  generalize hlow : 2045 = low
  rw [top_eq hlow, magnitude]
  constructor
  · intro hlt
    by_contra hle
    have hm : 2 ^ 52 ≤ m := by
      have hdigits := h.digits
      omega
    have hsteps : 53 + low ≤ 52 + (e + 1074).toNat := by omega
    have hge : 2 ^ 53 * 2 ^ low ≤ m * 2 ^ (e + 1074).toNat := by
      calc 2 ^ 53 * 2 ^ low = 2 ^ (53 + low) := (Nat.pow_add ..).symm
        _ ≤ 2 ^ (52 + (e + 1074).toNat) := Nat.pow_le_pow_right (by decide) hsteps
        _ = 2 ^ 52 * 2 ^ (e + 1074).toNat := Nat.pow_add ..
        _ ≤ m * 2 ^ (e + 1074).toNat := Nat.mul_le_mul_right _ hm
    omega
  · intro hle
    have hsteps : (e + 1074).toNat ≤ low := by omega
    calc m * 2 ^ (e + 1074).toNat < 2 ^ 53 * 2 ^ (e + 1074).toNat :=
          Nat.mul_lt_mul_of_pos_right h.lt (Nat.two_pow_pos _)
      _ ≤ 2 ^ 53 * 2 ^ low := Nat.mul_le_mul_left _ (Nat.pow_le_pow_right (by decide) hsteps)

end Magnitude

/-! ## Order -/

section Order

variable {u v : UnpackedFloat}

theorem compare_neg (a b : Int) : compare (-a) (-b) = (compare a b).swap := by
  rcases lt_trichotomy a b with hlt | rfl | hgt
  · rw [compare_lt_iff_lt.mpr hlt, compare_gt_iff_gt.mpr (Int.neg_lt_neg hlt)]
    rfl
  · rw [compare_eq_iff_eq.mpr rfl, compare_eq_iff_eq.mpr rfl]
    rfl
  · rw [compare_gt_iff_gt.mpr hgt, compare_lt_iff_lt.mpr (Int.neg_lt_neg hgt)]
    rfl

theorem compare_top_infinity (sign sign' : Sign) :
    compare sign sign' = compare (sign.apply top) (sign'.apply top) := by
  have htop : (0 : Int) < top := Int.ofNat_lt.mpr top_pos
  cases sign <;> cases sign'
  case negative.negative => exact (compare_eq_iff_eq.mpr rfl).symm
  case negative.positive =>
    have hlt : -(top : Int) < top := by omega
    exact (compare_lt_iff_lt.mpr hlt).symm
  case positive.negative =>
    have hlt : -(top : Int) < top := by omega
    exact (compare_gt_iff_gt.mpr hlt).symm
  case positive.positive => exact (compare_eq_iff_eq.mpr rfl).symm

theorem IsRounded.compare_infinity (hv : IsRounded v) (hlt : (place v).natAbs < top)
    (sign : Sign) : UnpackedFloat.compare (.infinity sign) v =
      some (compare (place (.infinity sign)) (place v)) := by
  have hcompare : compare (sign.apply top) (place v) =
      match sign with
      | .negative => .lt
      | .positive => .gt := by
    cases sign with
    | negative =>
      have hless : -(top : Int) < place v := by omega
      exact compare_lt_iff_lt.mpr hless
    | positive =>
      have hmore : place v < (top : Int) := by omega
      exact compare_gt_iff_gt.mpr hmore
  change _ = some (compare (sign.apply top) (place v))
  rw [hcompare]
  cases hv <;> cases sign <;> rfl

theorem IsRounded.infinity_compare (hu : IsRounded u) (hlt : (place u).natAbs < top)
    (sign : Sign) : UnpackedFloat.compare u (.infinity sign) =
      some (compare (place u) (place (.infinity sign))) := by
  have hswap : UnpackedFloat.compare u (.infinity sign) =
      (UnpackedFloat.compare (.infinity sign) u).map Ordering.swap := by
    cases hu <;> cases sign <;> rfl
  rw [hswap, hu.compare_infinity hlt sign, Option.map_some, ← Std.OrientedOrd.eq_swap]

theorem IsRounded.compare_eq (hu : IsRounded u) (hv : IsRounded v) :
    u.compare v = some (compare (place u) (place v)) := by
  cases hu with
  | zero sign =>
    cases hv with
    | zero sign => rfl
    | @finite sign n f hn hfits =>
      have hpos : (0 : Int) < magnitude n f := Int.ofNat_lt.mpr (magnitude_pos hn f)
      cases sign with
      | negative =>
        have hneg : -(magnitude n f : Int) < 0 := by omega
        exact congrArg some (compare_gt_iff_gt.mpr hneg).symm
      | positive => exact congrArg some (compare_lt_iff_lt.mpr hpos).symm
  | @finite sign m e hm hfits =>
    have hpos : (0 : Int) < magnitude m e := Int.ofNat_lt.mpr (magnitude_pos hm e)
    cases hv with
    | zero _ =>
      cases sign with
      | negative =>
        have hneg : -(magnitude m e : Int) < 0 := by omega
        exact congrArg some (compare_lt_iff_lt.mpr hneg).symm
      | positive => exact congrArg some (compare_gt_iff_gt.mpr hpos).symm
    | @finite sign' n f hn hfits' =>
      have hpos' : (0 : Int) < magnitude n f := Int.ofNat_lt.mpr (magnitude_pos hn f)
      have hcompare := hfits.compare_eq hfits'
      cases sign <;> cases sign'
      case negative.negative =>
        change some ((compare e f).then (compare m n)).swap = some (compare (-_) (-_))
        rw [hcompare, compare_neg]
      case negative.positive =>
        have hlt : -(magnitude m e : Int) < magnitude n f := by omega
        exact congrArg some (compare_lt_iff_lt.mpr hlt).symm
      case positive.negative =>
        have hlt : -(magnitude n f : Int) < magnitude m e := by omega
        exact congrArg some (compare_gt_iff_gt.mpr hlt).symm
      case positive.positive => exact congrArg some hcompare

/-- Doubles are compared as their places are. -/
theorem IsDouble.compare_eq (hu : IsDouble u) (hv : IsDouble v) (hnu : u ≠ .notANumber)
    (hnv : v ≠ .notANumber) : u.compare v = some (compare (place u) (place v)) := by
  cases hu with
  | notANumber => exact absurd rfl hnu
  | infinity sign =>
    cases hv with
    | notANumber => exact absurd rfl hnv
    | infinity sign' => exact congrArg some (compare_top_infinity sign sign')
    | rounded hv hlt => exact hv.compare_infinity hlt sign
  | rounded hu hlt =>
    cases hv with
    | notANumber => exact absurd rfl hnv
    | infinity sign => exact hu.infinity_compare hlt sign
    | rounded hv _ => exact hu.compare_eq hv

end Order

/-! ## Bits -/

section Bits

variable {m : Nat} {e : Int} {sign : Sign} {u : UnpackedFloat}

theorem bias_eq : (Format.binary64.exponentBias : Int) = 1023 := rfl

theorem biased_eq (e : Int) : (e + Format.binary64.exponentBias +
    Format.binary64.mantissaBitsWithoutImplicit).toNat = (e + 1075).toNat :=
  congrArg Int.toNat (Int.add_assoc e 1023 52)

theorem mantissaBits_eq : Format.binary64.mantissaBits = 53 := rfl

theorem toNat_one_append (b : BitVec 52) : (1#1 ++ b).toNat = 2 ^ 52 + b.toNat := by
  rw [BitVec.toNat_append, ← Nat.shiftLeft_add_eq_or_of_lt b.isLt]
  rfl

theorem IsDouble.finite {h : 0 < m} (hfits : Fits m e) (hhigh : e ≤ 971) :
    IsDouble (.finite sign m e h) := by
  refine .rounded (.finite hfits) ?_
  rw [place, natAbs_apply, Int.natAbs_natCast]
  exact hfits.magnitude_lt_top_iff.mpr hhigh

theorem isDouble_unpack (b : BitVec Format.binary64.numBits) : IsDouble (unpack .binary64 b) := by
  have hmantissa : (unpackMantissa b).toNat < 2 ^ 52 := (unpackMantissa b).isLt
  have hexponent : (unpackExponent b).toNat < 2 ^ 11 := (unpackExponent b).isLt
  unfold unpack
  dsimp only
  rw [bias_eq]
  split_ifs with hones hzero hleast hnothing
  · exact .infinity _
  · exact .notANumber
  · exact .rounded (.zero _) top_pos
  · have hleast : (unpackExponent b).toNat = 0 := congrArg BitVec.toNat hleast
    rw [hleast]
    exact .finite ⟨hmantissa.trans (by decide), by decide, .inl rfl⟩ (by decide)
  · have hones : (unpackExponent b).toNat ≠ 2047 := fun h => hones (BitVec.eq_of_toNat_eq h)
    have hleast : (unpackExponent b).toNat ≠ 0 := fun h => hleast (BitVec.eq_of_toNat_eq h)
    have happend := toNat_one_append (unpackMantissa b)
    refine .finite ⟨?_, ?_, .inr ?_⟩ ?_
    · omega
    · push_cast
      omega
    · omega
    · push_cast
      omega

theorem unpack_packComponents {exponent : BitVec 11} {mantissa : BitVec 52} {h : 0 < m}
    (hones : exponent ≠ -1#11) (hleast : exponent ≠ 0#11)
    (hmantissa : 2 ^ 52 + mantissa.toNat = m) (hexponent : (exponent.toNat : Int) - 1075 = e) :
    unpack .binary64 (packComponents .binary64 sign exponent mantissa) = .finite sign m e h := by
  rw [← toNat_one_append] at hmantissa
  subst hmantissa hexponent
  simp only [unpack, unpackMantissa_packComponents, unpackExponent_packComponents,
    unpackSign_packComponents, Sign.ofBitVec_toBitVec, if_neg hones, if_neg hleast]
  rfl

/-- With the least exponent there are fewer digits. -/
theorem unpack_packComponents_zero {mantissa : BitVec 52} {h : 0 < m}
    (hmantissa : mantissa.toNat = m) :
    unpack .binary64 (packComponents .binary64 sign 0#11 mantissa) =
      .finite sign m (-1074) h := by
  subst hmantissa
  have hne : mantissa ≠ 0#52 := by
    rintro rfl
    exact absurd h (by decide)
  simp only [unpack, unpackMantissa_packComponents, unpackExponent_packComponents,
    unpackSign_packComponents, Sign.ofBitVec_toBitVec, dif_neg hne]
  rfl

/-- What fits, below the infinity, is packed without a loss. -/
theorem unpack_pack_finite {h : 0 < m} (hfits : Fits m e) (hhigh : e ≤ 971) :
    unpack .binary64 (pack .binary64 (.finite sign m e h)) = .finite sign m e h := by
  have hlow := hfits.low
  have hlt := hfits.lt
  have hlog : m.log2 + 1 = 53 ↔ 2 ^ 52 ≤ m := by
    rw [← Nat.le_log2 h.ne']
    have hge := (Nat.log2_lt h.ne').mpr hlt
    omega
  rw [pack, biased_eq, mantissaBits_eq]
  dsimp only
  rw [if_neg (by omega)]
  by_cases hnormal : 2 ^ 52 ≤ m
  · have hexponent : (BitVec.ofNat 11 (e + 1075).toNat).toNat = (e + 1075).toNat := by
      rw [BitVec.toNat_ofNat]
      exact Nat.mod_eq_of_lt (by omega)
    rw [if_pos (hlog.mpr hnormal)]
    refine unpack_packComponents ?_ ?_ ?_ ?_
    · intro heq
      have hones := congrArg BitVec.toNat heq
      rw [hexponent] at hones
      change _ = 2047 at hones
      omega
    · intro heq
      have hzero := congrArg BitVec.toNat heq
      rw [hexponent] at hzero
      change _ = 0 at hzero
      omega
    · rw [BitVec.toNat_ofNat]
      omega
    · rw [hexponent]
      omega
  · have he : e = -1074 := hfits.digits.resolve_right hnormal
    subst he
    rw [if_neg (mt hlog.mp hnormal)]
    refine unpack_packComponents_zero ?_
    rw [BitVec.toNat_ofNat]
    omega

theorem unpack_pack_infinity (sign : Sign) :
    unpack .binary64 (pack .binary64 (.infinity sign)) = .infinity sign := by
  cases sign <;> rfl

theorem pack_finite_of_lt {h : 0 < m} (hhigh : 971 < e) :
    pack .binary64 (.finite sign m e h) = pack .binary64 (.infinity sign) := by
  unfold pack
  dsimp only
  rw [biased_eq, if_pos (by omega)]

/-- The place of what lies at a place, with the infinities for what lies beyond them. -/
def clamp (n : Int) : Int := max (-top) (min top n)

theorem clamp_eq_self {n : Int} (h : n.natAbs < top) : clamp n = n := by
  unfold clamp
  omega

theorem clamp_apply {n : Nat} (h : top ≤ n) (sign : Sign) :
    clamp (sign.apply n) = sign.apply top := by
  cases sign with
  | negative =>
    change clamp (-n) = -top
    unfold clamp
    omega
  | positive =>
    change clamp n = top
    unfold clamp
    omega

theorem clamp_mono {a b : Int} (h : a ≤ b) : clamp a ≤ clamp b := by
  unfold clamp
  omega

/-- A rounded number that is made a double stays at its place, or goes to an infinity. -/
theorem IsRounded.unpack_pack (h : IsRounded u) :
    unpack .binary64 (pack .binary64 u) ≠ .notANumber ∧
      place (unpack .binary64 (pack .binary64 u)) = clamp (place u) := by
  cases h with
  | zero sign =>
    have hzero : unpack .binary64 (pack .binary64 (.zero sign)) = .zero sign := unpack_packedZero
    have hplace : (place (.zero sign)).natAbs < top := top_pos
    rw [hzero]
    exact ⟨nofun, (clamp_eq_self hplace).symm⟩
  | @finite sign m e hpos hfits =>
    have habs : (place (.finite sign m e hpos)).natAbs = magnitude m e := natAbs_apply sign _
    by_cases hhigh : e ≤ 971
    · rw [unpack_pack_finite hfits hhigh]
      refine ⟨nofun, (clamp_eq_self ?_).symm⟩
      rw [habs]
      exact hfits.magnitude_lt_top_iff.mpr hhigh
    · rw [pack_finite_of_lt (by omega), unpack_pack_infinity]
      have htop : top ≤ magnitude m e :=
        Nat.le_of_not_lt (mt hfits.magnitude_lt_top_iff.mp hhigh)
      exact ⟨nofun, (clamp_apply htop sign).symm⟩

end Bits

end TermPilot.Double
