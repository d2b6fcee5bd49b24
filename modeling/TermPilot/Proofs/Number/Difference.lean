import TermPilot.Proofs.Number.Order
import TermPilot.Proofs.Number.Rounding

/-!
# Differences of doubles

A difference of two finite doubles is the difference of their places, rounded, and with an infinity
for what lies beyond it. All of this keeps the order, and so does taking the same double away from
two others: what does not come earlier does not come earlier afterwards.
-/

namespace TermPilot.Double

open Float.Model (Format UnpackedFloat)
open Float.Model.UnpackedFloat

/-! ## Rounding with a sign -/

section Nearest

variable {a b : Int}

/-- The place with 53 binary digits that is nearest to a place. -/
def nearest (n : Int) : Int := if 0 ≤ n then rounded n.natAbs else -rounded n.natAbs

theorem nearest_mono (h : a ≤ b) : nearest a ≤ nearest b := by
  unfold nearest
  split_ifs with ha hb hb
  · have habs : a.natAbs ≤ b.natAbs := by omega
    have hround := rounded_mono habs
    omega
  · omega
  · omega
  · have habs : b.natAbs ≤ a.natAbs := by omega
    have hround := rounded_mono habs
    omega

theorem nearest_zero : nearest 0 = 0 := by
  rw [nearest, if_pos le_rfl, Int.natAbs_zero, rounded_eq_self (by decide)]
  rfl

theorem nearest_apply (sign : Sign) (n : Nat) :
    nearest (sign.apply n) = sign.apply (rounded n) := by
  cases sign with
  | negative =>
    change nearest (-n) = -rounded n
    rcases Nat.eq_zero_or_pos n with rfl | hn
    · rw [rounded_eq_self (by decide)]
      exact nearest_zero
    · rw [nearest, if_neg (by omega), Int.natAbs_neg, Int.natAbs_natCast]
  | positive =>
    change nearest n = rounded n
    rw [nearest, if_pos (Int.natCast_nonneg n), Int.natAbs_natCast]

end Nearest

/-! ## Rounded numbers -/

section Rounded

variable {u v : UnpackedFloat}

/-- Rounding leaves a rounded number where it is. -/
theorem IsRounded.nearest_place (h : IsRounded u) : nearest (place u) = place u := by
  cases h with
  | zero sign => exact nearest_zero
  | @finite sign m e _ hfits =>
    have hround : rounded (magnitude m e) = magnitude m e := rounded_mul_two_pow hfits.lt _
    rw [place, nearest_apply, hround]

theorem apply_neg (sign : Sign) (n : Int) : (-sign).apply n = -sign.apply n := by
  cases sign with
  | negative => exact (Int.neg_neg n).symm
  | positive => rfl

theorem normalize_place {e : Int} (he : -1074 ≤ e) (n : Int) (sign : Sign) :
    IsRounded (normalize .binary64 n e sign) ∧
      place (normalize .binary64 n e sign) = nearest (n * 2 ^ (e + 1074).toNat) := by
  have hround (s : Sign) {m : Nat} (hm : 0 < m) (hn : n = s.apply m) :
      IsRounded (round .binary64 s m e) ∧
        place (round .binary64 s m e) = nearest (n * 2 ^ (e + 1074).toNat) := by
    have hmagnitude : n * 2 ^ (e + 1074).toNat = s.apply (magnitude m e) := by
      rw [hn, magnitude]
      cases s with
      | negative =>
        push_cast
        exact Int.neg_mul ..
      | positive =>
        push_cast
        rfl
    rw [hmagnitude, nearest_apply]
    exact round_place hm he s
  rw [UnpackedFloat.normalize]
  rcases lt_trichotomy n 0 with hlt | rfl | hgt
  · rw [compare_lt_iff_lt.mpr hlt]
    refine hround .negative (by omega) ?_
    change n = -((-n).toNat : Int)
    omega
  · rw [compare_eq_iff_eq.mpr rfl, Int.zero_mul, nearest_zero]
    exact ⟨.zero sign, rfl⟩
  · rw [compare_gt_iff_gt.mpr hgt]
    refine hround .positive (by omega) ?_
    change n = (n.toNat : Int)
    omega

theorem place_decreaseExponent {m : Nat} {e f : Int} {h : 0 < m} (he : -1074 ≤ e) (hf : -1074 ≤ f)
    (hle : f ≤ e) (sign : Sign) :
    sign.apply (decreaseExponent m e f).1 * 2 ^ (f + 1074).toNat =
      place (.finite sign m e h) := by
  have hexponent : (decreaseExponent m e f).2 = f := by
    rw [decreaseExponent]
    omega
  have hmagnitude := magnitude_decreaseExponent (m := m) he hf
  rw [hexponent] at hmagnitude
  rw [place, ← hmagnitude, magnitude]
  cases sign with
  | negative =>
    push_cast
    exact Int.neg_mul ..
  | positive =>
    push_cast
    rfl

theorem IsRounded.sub (hu : IsRounded u) (hv : IsRounded v) :
    IsRounded (u.sub .binary64 v) ∧ place (u.sub .binary64 v) = nearest (place u - place v) := by
  cases hv with
  | zero sign' =>
    have hzero : place (.zero sign') = 0 := rfl
    rw [hzero, Int.sub_zero, hu.nearest_place]
    cases hu with
    | zero sign =>
      rw [UnpackedFloat.sub]
      split
      · exact ⟨.zero _, rfl⟩
      · exact ⟨.zero _, rfl⟩
    | finite hfits => exact ⟨.finite hfits, rfl⟩
  | @finite sign' n f hn hfits' =>
    cases hu with
    | zero sign =>
      have hneg : place (.zero sign) - place (.finite sign' n f hn) =
          place (.finite (-sign') n f hn) :=
        (Int.zero_sub _).trans (apply_neg sign' _).symm
      rw [hneg, (IsRounded.finite hfits').nearest_place]
      exact ⟨.finite hfits', rfl⟩
    | @finite sign m e hm hfits =>
      have he := hfits.low
      have hf := hfits'.low
      have hmin : -1074 ≤ min e f := le_min he hf
      have hdiff := normalize_place hmin
        (sign.apply (decreaseExponent m e (min e f)).1 -
          sign'.apply (decreaseExponent n f (min e f)).1) .positive
      rw [Int.sub_mul, place_decreaseExponent (h := hm) he hmin (min_le_left e f),
        place_decreaseExponent (h := hn) hf hmin (min_le_right e f)] at hdiff
      exact hdiff

end Rounded

/-! ## Infinities -/

section Infinities

variable {u v w : UnpackedFloat}

theorem IsDouble.place_bounds (h : IsDouble u) : -(top : Int) ≤ place u ∧ place u ≤ top := by
  cases h with
  | notANumber =>
    change -(top : Int) ≤ 0 ∧ (0 : Int) ≤ top
    omega
  | infinity sign =>
    have hplace : place (.infinity sign) = sign.apply top := rfl
    rw [hplace]
    cases sign with
    | negative =>
      change -(top : Int) ≤ -top ∧ -(top : Int) ≤ top
      omega
    | positive =>
      change -(top : Int) ≤ top ∧ (top : Int) ≤ top
      omega
  | rounded _ hlt => omega

theorem IsRounded.infinity_sub (hw : IsRounded w) (sign : Sign) :
    (UnpackedFloat.infinity sign).sub .binary64 w = .infinity sign := by
  cases hw <;> rfl

/-- If an infinity is taken away, then the other infinity is left or nothing that is a number. -/
theorem sub_infinity (u : UnpackedFloat) (sign : Sign) :
    u.sub .binary64 (.infinity sign) = .notANumber ∨
      u.sub .binary64 (.infinity sign) = .infinity (-sign) := by
  cases u with
  | notANumber => exact .inl rfl
  | infinity sign' =>
    cases sign <;> cases sign'
    case negative.negative => exact .inl rfl
    case negative.positive => exact .inr rfl
    case positive.negative => exact .inr rfl
    case positive.positive => exact .inl rfl
  | zero _ => exact .inr rfl
  | finite _ _ _ _ => exact .inr rfl

theorem IsDouble.sub_mono_of_isRounded (hu : IsDouble u) (hv : IsDouble v) (hw : IsRounded w)
    (hnu : u ≠ .notANumber) (hnv : v ≠ .notANumber) (h : place u ≤ place v) :
    place (unpack .binary64 (pack .binary64 (u.sub .binary64 w))) ≤
      place (unpack .binary64 (pack .binary64 (v.sub .binary64 w))) := by
  have hbounds (z : UnpackedFloat) := (isDouble_unpack (pack .binary64 z)).place_bounds
  have htop := top_pos
  have hbottom : place (.infinity .negative) = -top := rfl
  have hplace : place (.infinity .positive) = top := rfl
  cases hu with
  | notANumber => exact absurd rfl hnu
  | infinity sign =>
    rw [hw.infinity_sub, unpack_pack_infinity]
    cases sign with
    | negative => exact (hbounds _).1
    | positive =>
      cases hv with
      | notANumber => exact absurd rfl hnv
      | infinity sign' =>
        rw [hw.infinity_sub, unpack_pack_infinity]
        exact h
      | rounded _ hlt => omega
  | rounded hu hltu =>
    cases hv with
    | notANumber => exact absurd rfl hnv
    | infinity sign =>
      rw [hw.infinity_sub, unpack_pack_infinity]
      cases sign with
      | negative => omega
      | positive => exact (hbounds _).2
    | rounded hv hltv =>
      obtain ⟨hleft, hplaceu⟩ := hu.sub hw
      obtain ⟨hright, hplacev⟩ := hv.sub hw
      rw [hleft.unpack_pack.2, hright.unpack_pack.2, hplaceu, hplacev]
      exact clamp_mono (nearest_mono (Int.sub_le_sub_right h _))

theorem IsDouble.isRounded (hu : IsDouble u) (h : u.isFinite = true) : IsRounded u := by
  cases hu with
  | notANumber => cases h
  | infinity sign => cases h
  | rounded hu _ => exact hu

/-- A number is left if a number that is not infinite is taken away from another one. -/
theorem IsDouble.unpack_pack_sub_ne (hu : IsDouble u) (hw : IsRounded w) (hnu : u ≠ .notANumber) :
    unpack .binary64 (pack .binary64 (u.sub .binary64 w)) ≠ .notANumber := by
  cases hu with
  | notANumber => exact absurd rfl hnu
  | infinity sign =>
    rw [hw.infinity_sub, unpack_pack_infinity]
    nofun
  | rounded hu _ => exact (hu.sub hw).1.unpack_pack.1

/-- To take the same away keeps the order as far as numbers are left. -/
theorem IsDouble.sub_mono (hu : IsDouble u) (hv : IsDouble v) (hw : IsDouble w)
    (hnu : u.sub .binary64 w ≠ .notANumber) (hnv : v.sub .binary64 w ≠ .notANumber)
    (h : place u ≤ place v) :
    place (unpack .binary64 (pack .binary64 (u.sub .binary64 w))) ≤
      place (unpack .binary64 (pack .binary64 (v.sub .binary64 w))) := by
  cases hw with
  | notANumber =>
    refine absurd ?_ hnu
    cases u <;> rfl
  | infinity sign =>
    rw [(sub_infinity u sign).resolve_left hnu, (sub_infinity v sign).resolve_left hnv]
  | rounded hw _ =>
    refine hu.sub_mono_of_isRounded hv hw ?_ ?_ h
    · rintro rfl
      exact hnu rfl
    · rintro rfl
      exact hnv rfl

end Infinities

/-! ## Doubles -/

section Doubles

variable {x y t : Float}

/-- The place of a double. -/
def placeOf (x : Float) : Int := place x.toModel.unpack

theorem isDouble_toModel (x : Float) : IsDouble x.toModel.unpack := isDouble_unpack _

theorem compare_eq_place (hx : ¬ x.isNaN = true) (hy : ¬ y.isNaN = true) :
    x.toModel.unpack.compare y.toModel.unpack = some (compare (placeOf x) (placeOf y)) :=
  (isDouble_toModel x).compare_eq (isDouble_toModel y) (mt isNaN_iff_unpack.mpr hx)
    (mt isNaN_iff_unpack.mpr hy)

theorem compare_eq_none (h : x.isNaN = true ∨ y.isNaN = true) :
    x.toModel.unpack.compare y.toModel.unpack = none := by
  rcases h with h | h
  · rw [isNaN_iff_unpack.mp h]
    rfl
  · rw [isNaN_iff_unpack.mp h]
    cases x.toModel.unpack <;> rfl

theorem lt_iff_place :
    x < y ↔ (¬ x.isNaN = true ∧ ¬ y.isNaN = true) ∧ placeOf x < placeOf y := by
  rw [lt_iff_unpack, UnpackedFloat.lt, ← not_or]
  by_cases hnan : x.isNaN = true ∨ y.isNaN = true
  · rw [compare_eq_none hnan]
    exact iff_of_false (by decide) fun h => h.1 hnan
  · rw [compare_eq_place (fun h => hnan (.inl h)) (fun h => hnan (.inr h)), beq_iff_eq,
      Option.some_inj, compare_lt_iff_lt]
    exact (and_iff_right hnan).symm

theorem le_iff_place :
    x ≤ y ↔ (¬ x.isNaN = true ∧ ¬ y.isNaN = true) ∧ placeOf x ≤ placeOf y := by
  rw [le_iff_unpack, UnpackedFloat.le, ← not_or]
  by_cases hnan : x.isNaN = true ∨ y.isNaN = true
  · rw [compare_eq_none hnan]
    exact iff_of_false (by decide) fun h => h.1 hnan
  · rw [compare_eq_place (fun h => hnan (.inl h)) (fun h => hnan (.inr h)), Option.any_some,
      Ordering.isLE_iff_ne_gt, ← ne_eq, compare_le_iff_le]
    exact (and_iff_right hnan).symm

theorem unpack_sub (x t : Float) : (x - t).toModel.unpack =
    unpack .binary64 (pack .binary64 (x.toModel.unpack.sub .binary64 t.toModel.unpack)) := rfl

/-- If a difference is a number, then it is one before it is made a double. -/
theorem sub_ne_of_not_isNaN (h : ¬ (x - t).isNaN = true) :
    x.toModel.unpack.sub .binary64 t.toModel.unpack ≠ .notANumber := by
  intro hsub
  refine h (isNaN_iff_unpack.mpr ?_)
  rw [unpack_sub, hsub]
  exact unpack_packedNaN

theorem not_isNaN_of_sub (h : ¬ (x - t).isNaN = true) : ¬ x.isNaN = true := by
  intro hx
  refine sub_ne_of_not_isNaN h ?_
  rw [isNaN_iff_unpack.mp hx]
  rfl

/-- What does not come before another double does not do so with the same taken away from both. -/
theorem not_sub_lt_sub (h : ¬ y < x) (t : Float) : ¬ y - t < x - t := by
  intro hlt
  obtain ⟨⟨hy, hx⟩, hplace⟩ := lt_iff_place.mp hlt
  have hle : placeOf x ≤ placeOf y := by
    by_contra hgt
    exact h (lt_iff_place.mpr ⟨⟨not_isNaN_of_sub hy, not_isNaN_of_sub hx⟩, Int.lt_of_not_ge hgt⟩)
  have hsub := (isDouble_toModel x).sub_mono (isDouble_toModel y) (isDouble_toModel t)
    (sub_ne_of_not_isNaN hx) (sub_ne_of_not_isNaN hy) hle
  exact absurd hplace (Int.not_lt.mpr hsub)

/-- To take the same finite double away from two that are in order leaves them so. -/
theorem sub_le_sub (h : x ≤ y) (ht : t.isFinite = true) : x - t ≤ y - t := by
  obtain ⟨⟨hx, hy⟩, hplace⟩ := le_iff_place.mp h
  have hw := (isDouble_toModel t).isRounded ht
  have hu := isDouble_toModel x
  have hv := isDouble_toModel y
  rw [isNaN_iff_unpack] at hx hy
  rw [le_iff_place, isNaN_iff_unpack, isNaN_iff_unpack, unpack_sub, unpack_sub]
  exact ⟨⟨hu.unpack_pack_sub_ne hw hx, hv.unpack_pack_sub_ne hw hy⟩,
    hu.sub_mono_of_isRounded hv hw hx hy hplace⟩

end Doubles

end TermPilot.Double
