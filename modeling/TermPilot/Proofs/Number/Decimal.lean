import Mathlib.Algebra.Group.Nat.Defs
import TermPilot.Number.Decimal
import TermPilot.Number.Numeral

/-!
# Decimal digits of natural numbers

A natural number is written as a run of the digits `0` to `9`, which reads back as the number.
-/

namespace TermPilot.Double

theorem isDigit_of_mem_digits {n : Nat} {c : Char} (h : c ∈ digits n) : c.isDigit = true :=
  Nat.isDigit_of_mem_toDigits (by decide) (by decide) h

theorem digits_ne_nil (n : Nat) : digits n ≠ [] := Nat.toDigits_ne_nil

theorem not_mem_digits {c : Char} (h : c.isDigit = false) (n : Nat) : c ∉ digits n := by
  intro hc
  rw [isDigit_of_mem_digits hc] at h
  exact Bool.noConfusion h

theorem isNumeral_digits (n : Nat) : Text.isNumeral (digits n) = true := by
  have hne : (digits n).isEmpty = false := by
    rw [List.isEmpty_eq_false_iff]
    exact digits_ne_nil n
  have hall : (digits n).all Char.isDigit = true :=
    List.all_eq_true.mpr fun c hc => isDigit_of_mem_digits hc
  rw [Text.isNumeral, hne, hall]
  rfl

/-- The value of a run of digits is the one of the library. -/
theorem ofDigits_map (t : Text) :
    Numeral.ofDigits 10 (t.map fun c => c.toNat - '0'.toNat) = Nat.ofDigitChars 10 t 0 := by
  rw [Nat.ofDigitChars_eq_foldl, Numeral.ofDigits, List.foldl_map]
  simp only [Nat.mul_comm _ 10]

theorem ofDigits_digits (n : Nat) :
    Numeral.ofDigits 10 ((digits n).map fun c => c.toNat - '0'.toNat) = n := by
  rw [ofDigits_map]
  exact Nat.ofDigitChars_ten_toDigits

theorem digits_injective {m n : Nat} (h : digits m = digits n) : m = n := by
  rw [← ofDigits_digits m, h, ofDigits_digits]

/-- In front of something else than a digit the digits of a number end. -/
theorem digits_append_inj {m n : Nat} {c d : Char} {s t : Text} (hc : c.isDigit = false)
    (hd : d.isDigit = false) (h : digits m ++ c :: s = digits n ++ d :: t) :
    m = n ∧ c = d ∧ s = t := by
  have hrun {n : Nat} {c : Char} {s : Text} (hc : c.isDigit = false) :
      (digits n ++ c :: s).takeWhile Char.isDigit = digits n := by
    rw [List.takeWhile_append_of_pos fun _ hmem => isDigit_of_mem_digits hmem,
      List.takeWhile_cons_of_neg (by simp [hc]), List.append_nil]
  have hdigits : digits m = digits n := by
    have htake := congrArg (List.takeWhile Char.isDigit) h
    rwa [hrun hc, hrun hd] at htake
  rw [hdigits] at h
  obtain ⟨hhead, htail⟩ := List.cons.inj (List.append_cancel_left h)
  exact ⟨digits_injective hdigits, hhead, htail⟩

theorem plain_of_le {t : Text} (h : t.length ≤ Numeral.maxDigits) :
    Numeral.plain t = .ok (Nat.ofDigitChars 10 t 0) := by
  rw [Numeral.plain, if_neg (Nat.not_lt.mpr h), ofDigits_map]

theorem plain_of_lt {t : Text} (h : Numeral.maxDigits < t.length) :
    Numeral.plain t = .error (.tooLong t.length) := by
  rw [Numeral.plain, if_pos h]

/-- Digits behind a number bring it to less than the number above it would be with zeros there. -/
theorem foldl_digits_lt {ds : List Nat} (h : ∀ d ∈ ds, d < 10) (n : Nat) :
    ds.foldl (fun n d => n * 10 + d) n < (n + 1) * 10 ^ ds.length := by
  induction ds generalizing n with
  | nil => simp
  | cons d ds ih =>
    obtain ⟨hd, hds⟩ := List.forall_mem_cons.mp h
    have hnext : n * 10 + d + 1 ≤ (n + 1) * 10 := by omega
    calc (d :: ds).foldl (fun n d => n * 10 + d) n
        < (n * 10 + d + 1) * 10 ^ ds.length := ih hds _
      _ ≤ (n + 1) * 10 * 10 ^ ds.length := Nat.mul_le_mul_right _ hnext
      _ = (n + 1) * 10 ^ (d :: ds).length := by
        rw [List.length_cons, Nat.pow_succ, Nat.mul_assoc, Nat.mul_comm 10]

theorem isWritable_iff {number : Int} :
    IsWritable number ↔ number.natAbs < 10 ^ Numeral.maxDigits :=
  Nat.length_toDigits_le_iff (by decide) (by decide)

/-- A number that is read from a run of digits has few enough of them to be written. -/
theorem isWritable_of_plain {t : Text} (hdigits : ∀ c ∈ t, c.isDigit = true) {n : Nat}
    (h : Numeral.plain t = .ok n) : IsWritable n := by
  rw [Numeral.plain] at h
  split at h
  case isTrue => cases h
  case isFalse hlength =>
    obtain rfl := Except.ok.inj h
    have hvalues : ∀ d ∈ t.map fun c => c.toNat - '0'.toNat, d < 10 := by
      intro d hd
      obtain ⟨c, hc, rfl⟩ := List.mem_map.mp hd
      have hlast : c.toNat ≤ 57 := (Char.isDigit_iff_toNat.mp (hdigits c hc)).2
      show c.toNat - 48 < 10
      omega
    have hbelow := foldl_digits_lt hvalues 0
    rw [List.length_map, Nat.zero_add, Nat.one_mul] at hbelow
    rw [isWritable_iff, Int.natAbs_natCast]
    exact Nat.lt_of_lt_of_le hbelow (Nat.pow_le_pow_right (by decide) (Nat.not_lt.mp hlength))

theorem toList_toString (n : Nat) : (toString n).toList = digits n := Nat.toList_repr

end TermPilot.Double
