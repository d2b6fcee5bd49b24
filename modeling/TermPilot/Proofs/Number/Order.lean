import Mathlib
import TermPilot.Number.Numeral
import TermPilot.Proofs.Number.Double

/-!
# Doubles that are no number

A double that is no number is neither below zero nor above it, so that a test for negative numbers
lets it through. Reading digits never gives such a double; the word for it does.
-/

namespace TermPilot

namespace Double

open Float.Model (Format UnpackedFloat)
open Float.Model.UnpackedFloat

/-! ## Comparing with zero -/

section Zero

variable {x : Float}

theorem isNaN_iff_unpack : x.isNaN = true ↔ x.toModel.unpack = .notANumber :=
  UnpackedFloat.isNaN_iff

theorem zero_le_unpacked (u : UnpackedFloat) :
    (UnpackedFloat.zero .positive).le u = true ↔
      u.lt (.zero .positive) = false ∧ u ≠ .notANumber := by
  cases u with
  | notANumber => simp [UnpackedFloat.le, UnpackedFloat.compare]
  | infinity sign => cases sign <;> simp [UnpackedFloat.le, UnpackedFloat.lt, UnpackedFloat.compare]
  | zero sign => cases sign <;> simp [UnpackedFloat.le, UnpackedFloat.lt, UnpackedFloat.compare]
  | finite sign =>
    cases sign <;> simp [UnpackedFloat.le, UnpackedFloat.lt, UnpackedFloat.compare]

theorem zero_lt_unpacked (u : UnpackedFloat) :
    (UnpackedFloat.zero .positive).lt u = true ↔
      u.le (.zero .positive) = false ∧ u ≠ .notANumber := by
  cases u with
  | notANumber => simp [UnpackedFloat.lt, UnpackedFloat.compare]
  | infinity sign => cases sign <;> simp [UnpackedFloat.le, UnpackedFloat.lt, UnpackedFloat.compare]
  | zero sign => cases sign <;> simp [UnpackedFloat.le, UnpackedFloat.lt, UnpackedFloat.compare]
  | finite sign =>
    cases sign <;> simp [UnpackedFloat.le, UnpackedFloat.lt, UnpackedFloat.compare]

theorem lt_iff_unpack {x y : Float} :
    x < y ↔ x.toModel.unpack.lt y.toModel.unpack = true := decide_eq_true_iff

theorem le_iff_unpack {x y : Float} :
    x ≤ y ↔ x.toModel.unpack.le y.toModel.unpack = true := decide_eq_true_iff

theorem zero_le_iff : 0 ≤ x ↔ ¬ x < 0 ∧ ¬ x.isNaN = true := by
  rw [le_iff_unpack, lt_iff_unpack, isNaN_iff_unpack, unpack_zero, zero_le_unpacked,
    Bool.not_eq_true]

theorem zero_lt_iff : 0 < x ↔ ¬ x ≤ 0 ∧ ¬ x.isNaN = true := by
  rw [le_iff_unpack, lt_iff_unpack, isNaN_iff_unpack, unpack_zero, zero_lt_unpacked,
    Bool.not_eq_true]

end Zero

/-! ## Bits -/

section Bits

theorem unpack_eq_notANumber_iff {spec : Format} {b : BitVec spec.numBits} :
    unpack spec b = .notANumber ↔ isNaNBits b = true := by
  unfold unpack isNaNBits
  dsimp only
  split_ifs <;> simp [*, spec.he.ne']

theorem toNat_unpackExponent (b : BitVec Format.binary64.numBits) :
    (unpackExponent b).toNat = b.toNat / 0x10000000000000 % 0x800 := by
  rw [unpackExponent_def, BitVec.extractLsb'_toNat, Nat.shiftRight_eq_div_pow]
  rfl

theorem toNat_unpackMantissa (b : BitVec Format.binary64.numBits) :
    (unpackMantissa b).toNat = b.toNat % 0x10000000000000 := by
  rw [unpackMantissa_def, BitVec.extractLsb'_toNat]
  rfl

/-- But for the sign, the bits above those of an infinity stand for no number. -/
theorem isNaNBits_iff {b : BitVec Format.binary64.numBits} :
    isNaNBits b = true ↔ 0x7FF0000000000000 < b.toNat % 0x8000000000000000 := by
  have hones : (-BitVec.ofNat Format.binary64.exponentBits 1).toNat = 0x7FF := rfl
  have hzero : (BitVec.ofNat Format.binary64.mantissaBitsWithoutImplicit 0).toNat = 0 := rfl
  rw [isNaNBits, decide_eq_true_iff, ne_eq, ← BitVec.toNat_inj, ← BitVec.toNat_inj,
    toNat_unpackExponent, toNat_unpackMantissa, hones, hzero]
  omega

/-- Bits that stand for a number are kept as they are. -/
theorem unpack_ofBits {b : UInt64} (h : ¬ @isNaNBits .binary64 b.toBitVec = true) :
    (Float.ofBits b).toModel.unpack = unpack .binary64 b.toBitVec := by
  have hback : (unpack .binary64 b.toBitVec).pack .binary64 = b.toBitVec := by
    rw [pack_unpack, if_neg h]
  exact congrArg (unpack .binary64) hback

theorem not_isNaN_ofBits {b : UInt64} (h : b.toNat % 0x8000000000000000 ≤ 0x7FF0000000000000) :
    ¬ (Float.ofBits b).isNaN = true := by
  have hnumber : ¬ @isNaNBits .binary64 b.toBitVec = true := by
    rw [isNaNBits_iff]
    exact Nat.not_lt.mpr h
  rwa [isNaN_iff_unpack, unpack_ofBits hnumber, unpack_eq_notANumber_iff]

theorem zero_lt_of_isUnsigned {u : UnpackedFloat} (h : IsUnsigned u) (hnumber : u ≠ .notANumber)
    (hzero : u ≠ .zero .positive) : (UnpackedFloat.zero .positive).lt u = true := by
  cases u with
  | notANumber => exact absurd rfl hnumber
  | infinity sign =>
    obtain rfl : sign = .positive := h
    rfl
  | zero sign =>
    obtain rfl : sign = .positive := h
    exact absurd rfl hzero
  | finite sign mantissa exponent hmantissa =>
    obtain rfl : sign = .positive := h
    rfl

/-- Without the sign bit, the bits between those of zero and those of the infinity stand for numbers
above zero. -/
theorem zero_lt_ofBits {b : UInt64} (hpos : 0 < b.toNat) (h : b.toNat < 0x7FF0000000000000) :
    0 < Float.ofBits b := by
  have hnumber : ¬ @isNaNBits .binary64 b.toBitVec = true := by
    rw [isNaNBits_iff, UInt64.toNat_toBitVec]
    omega
  have hvalid : Format.binary64.Valid b.toBitVec :=
    ⟨fun hexponent hmantissa =>
      absurd (decide_eq_true ⟨hexponent, hmantissa⟩) hnumber⟩
  have hsign : @unpackSign .binary64 b.toBitVec = 0#1 := by
    apply BitVec.eq_of_toNat_eq
    rw [unpackSign_def, BitVec.extractLsb'_toNat, Nat.shiftRight_eq_div_pow, UInt64.toNat_toBitVec]
    change b.toNat / 0x8000000000000000 % 2 = 0
    omega
  have hzero : unpack .binary64 b.toBitVec ≠ .zero .positive := by
    rw [Ne, unpack_eq_zero_iff_of_valid hvalid]
    intro heq
    have hbits : b.toNat = 0 := congrArg BitVec.toNat heq
    omega
  rw [lt_iff_unpack, unpack_zero, unpack_ofBits hnumber]
  exact zero_lt_of_isUnsigned (isUnsigned_unpack hsign)
    (mt unpack_eq_notANumber_iff.mp hnumber) hzero

end Bits

/-! ## Ratios, whole numbers and decimals -/

section Digits

variable {x : Float}

theorem not_isNaN_of_ofRatio {negative : Bool} {num den : Nat}
    (h : ofRatio negative num den = some x) : ¬ x.isNaN = true := by
  obtain ⟨bits, hbits, rfl⟩ := Option.map_eq_some_iff.mp h
  have hlt := bitsOfRatio_lt hbits
  refine not_isNaN_ofBits ?_
  cases negative <;> simp <;> omega

theorem not_isNaN_of_ofInt {n : Int} (h : ofInt n = some x) : ¬ x.isNaN = true :=
  not_isNaN_of_ofRatio h

theorem zero_lt_of_ofInt {n : Int} (hn : 0 < n) (h : ofInt n = some x) : 0 < x := by
  obtain ⟨bits, hbits, rfl⟩ := Option.map_eq_some_iff.mp h
  have hlt := bitsOfRatio_lt hbits
  have hpos : 0 < bits := by
    rw [bitsOfRatio_one (by omega)] at hbits
    dsimp only at hbits
    rw [Option.ite_none_right_eq_some] at hbits
    have := Option.some.inj hbits.2
    omega
  have hnonneg : ¬ decide (n < 0) = true := by simpa using Int.le_of_lt hn
  have hbits : bits.toUInt64.toNat = bits := by simp; omega
  rw [if_neg hnonneg, Nat.zero_add]
  exact zero_lt_ofBits (by omega) (by omega)

theorem not_isNaN_infinity (negative : Bool) :
    ¬ (if negative then -infinity else infinity).isNaN = true := by
  cases negative <;> decide

theorem not_isNaN_ofDecimal (negative : Bool) (digits : Nat) (exponent : Int) :
    ¬ (ofDecimal negative digits exponent).isNaN = true := by
  unfold ofDecimal
  dsimp only
  split
  case h_1 x hnearest =>
    split_ifs at hnearest
    · exact not_isNaN_of_ofRatio hnearest
    · exact not_isNaN_of_ofRatio hnearest
  case h_2 => exact not_isNaN_infinity negative

end Digits

end Double

/-! ## Texts -/

namespace Numeral

/-- The text is the word for a double that is no number, with or without a sign. -/
def SaysNaN (t : Text) : Prop := (cutSign (strip t)).2.map Char.toLower = "nan".toList

instance (t : Text) : Decidable (SaysNaN t) :=
  inferInstanceAs (Decidable ((cutSign (strip t)).2.map Char.toLower = "nan".toList))

theorem not_isNaN_assemble (negative : Bool) (before after : List Nat) (exponent : Int) :
    ¬ (assemble negative before after exponent).isNaN = true :=
  Double.not_isNaN_ofDecimal negative _ _

theorem not_isNaN_of_unsignedReal {negative : Bool} {t : Text} {x : Float}
    (h : unsignedReal negative t = some x) : ¬ x.isNaN = true := by
  rw [unsignedReal] at h
  -- the mantissa is read in one way, with an exponent behind it and without
  split at h
  all_goals
    obtain ⟨⟨mantissa, exponent⟩, -, h⟩ := Option.bind_eq_some_iff.mp h
    dsimp only at h
    split at h
    · obtain ⟨digits, -, hx⟩ := Option.bind_eq_some_iff.mp h
      rw [← Option.some.inj hx]
      exact not_isNaN_assemble _ _ _ _
    · obtain ⟨before, -, hafter⟩ := Option.bind_eq_some_iff.mp h
      obtain ⟨after, -, hx⟩ := Option.bind_eq_some_iff.mp hafter
      rw [Option.ite_none_left_eq_some] at hx
      rw [← Option.some.inj hx.2]
      exact not_isNaN_assemble _ _ _ _

/-- A text is read as no number exactly if it says so. -/
theorem isNaN_iff_saysNaN {t : Text} {x : Float} (h : real? t = some x) :
    x.isNaN = true ↔ SaysNaN t := by
  have hinf : ¬ "inf".toList = "nan".toList := by decide
  have hinfinity : ¬ "infinity".toList = "nan".toList := by decide
  have hnan : Double.nan.isNaN = true := by decide
  unfold real? at h
  unfold SaysNaN
  generalize cutSign (strip t) = cut at h ⊢
  obtain ⟨negative, rest⟩ := cut
  generalize "inf".toList = inf at *
  generalize "infinity".toList = infinity at *
  generalize "nan".toList = nan at *
  dsimp only at h ⊢
  by_cases hword : rest.map Char.toLower = inf ∨ rest.map Char.toLower = infinity
  · rw [if_pos hword] at h
    have hx := Double.not_isNaN_infinity negative
    rw [Option.some.inj h] at hx
    refine iff_of_false hx ?_
    rcases hword with hword | hword
    · rwa [hword]
    · rwa [hword]
  · rw [if_neg hword] at h
    split_ifs at h with hword'
    · rw [← Option.some.inj h]
      exact iff_of_true hnan hword'
    · exact iff_of_false (not_isNaN_of_unsignedReal h) hword'

end Numeral

end TermPilot
