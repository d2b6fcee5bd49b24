import TermPilot.Text.Base64

/-!
# Base 64 reads back

Every sequence of bytes is read back from its text, group by group: each letter gives its six bits,
and no letter is the padding character.
-/

namespace TermPilot.Text.Base64

/-! ## Letters -/

theorem digit?_letter {n : Nat} (h : n < 64) : digit? (letter n) = some n := by
  have hall : ∀ k : Fin 64, digit? (letter k) = some k.val := by decide
  exact hall ⟨n, h⟩

theorem letter_ne_pad {n : Nat} (h : n < 64) : letter n ≠ '=' := by
  have hall : ∀ k : Fin 64, letter k ≠ '=' := by decide
  exact hall ⟨n, h⟩

theorem letter_bounds {n : Nat} (h : n < 64) :
    0x20 < (letter n).toNat ∧ (letter n).toNat < 0x7F := by
  have hall : ∀ k : Fin 64, 0x20 < (letter k).toNat ∧ (letter k).toNat < 0x7F := by decide
  exact hall ⟨n, h⟩

/-- The text for bytes holds visible ASCII characters only. -/
theorem bounds_of_mem_encode {bytes : List UInt8} {c : Char} (h : c ∈ encode bytes) :
    0x20 < c.toNat ∧ c.toNat < 0x7F := by
  have hpad : 0x20 < '='.toNat ∧ '='.toNat < 0x7F := by decide
  fun_induction encode bytes with
  | case1 => exact absurd h List.not_mem_nil
  | case2 a n =>
    have ha := a.toNat_lt
    simp only [List.mem_cons, List.not_mem_nil, or_false] at h
    rcases h with rfl | rfl | rfl | rfl
    · exact letter_bounds (by omega)
    · exact letter_bounds (by omega)
    · exact hpad
    · exact hpad
  | case3 a b n =>
    have ha := a.toNat_lt
    have hb := b.toNat_lt
    simp only [List.mem_cons, List.not_mem_nil, or_false] at h
    rcases h with rfl | rfl | rfl | rfl
    · exact letter_bounds (by omega)
    · exact letter_bounds (by omega)
    · exact letter_bounds (by omega)
    · exact hpad
  | case4 a b c rest n ih =>
    have ha := a.toNat_lt
    have hb := b.toNat_lt
    have hc := c.toNat_lt
    simp only [List.mem_cons] at h
    rcases h with rfl | rfl | rfl | rfl | h
    · exact letter_bounds (by omega)
    · exact letter_bounds (by omega)
    · exact letter_bounds (by omega)
    · exact letter_bounds (by omega)
    · exact ih h

/-! ## Groups -/

section Groups

variable {w x y z : Nat} {started : Bool}

theorem decodeGroups_one (hw : w < 64) (hx : x < 64) :
    decodeGroups started [letter w, letter x, '=', '='] =
      some [((w * 64 + x) / 16).toUInt8] := by
  rw [decodeGroups, if_neg (letter_ne_pad hw)]
  simp [digit?_letter hw, digit?_letter hx]

theorem decodeGroups_two (hw : w < 64) (hx : x < 64) (hy : y < 64) :
    decodeGroups started [letter w, letter x, letter y, '='] =
      some [(((w * 64 + x) * 64 + y) / 1024).toUInt8, (((w * 64 + x) * 64 + y) / 4).toUInt8] := by
  rw [decodeGroups, if_neg (letter_ne_pad hw)]
  · simp [digit?_letter hw, digit?_letter hx, digit?_letter hy]
  · exact letter_ne_pad hy

theorem decodeGroups_three (hw : w < 64) (hx : x < 64) (hy : y < 64) (hz : z < 64)
    (later : Text) :
    decodeGroups started (letter w :: letter x :: letter y :: letter z :: later) =
      (decodeGroups true later).map fun bytes =>
        ((((w * 64 + x) * 64 + y) * 64 + z) / 65536).toUInt8 ::
          ((((w * 64 + x) * 64 + y) * 64 + z) / 256).toUInt8 ::
            (((w * 64 + x) * 64 + y) * 64 + z).toUInt8 :: bytes := by
  rw [decodeGroups, if_neg (letter_ne_pad hw)]
  · simp only [digit?_letter hw, digit?_letter hx, digit?_letter hy, digit?_letter hz]
    cases decodeGroups true later <;> rfl
  · exact fun _ hpad => absurd hpad (letter_ne_pad hz)
  · exact fun hpad => absurd hpad (letter_ne_pad hz)

end Groups

/-- The low eight bits of a number make up a byte. -/
theorem toUInt8_eq_of_mod {n : Nat} {byte : UInt8} (h : n % 256 = byte.toNat) :
    n.toUInt8 = byte := by
  apply UInt8.toNat_inj.mp
  rw [← h]
  exact UInt8.toNat_ofNat'

theorem decodeGroups_encode (started : Bool) (bytes : List UInt8) :
    decodeGroups started (encode bytes) = some bytes := by
  fun_induction encode bytes generalizing started with
  | case1 => rfl
  | case2 a n =>
    have ha := a.toNat_lt
    have first : ((n / 64 * 64 + n % 64) / 16).toUInt8 = a := toUInt8_eq_of_mod (by omega)
    rw [decodeGroups_one (by omega) (by omega), first]
  | case3 a b n =>
    have ha := a.toNat_lt
    have hb := b.toNat_lt
    have hn : (n / 4096 * 64 + n / 64 % 64) * 64 + n % 64 = n := by omega
    have first : (n / 1024).toUInt8 = a := toUInt8_eq_of_mod (by omega)
    have second : (n / 4).toUInt8 = b := toUInt8_eq_of_mod (by omega)
    rw [decodeGroups_two (by omega) (by omega) (by omega), hn, first, second]
  | case4 a b c rest n ih =>
    have ha := a.toNat_lt
    have hb := b.toNat_lt
    have hc := c.toNat_lt
    have hn : ((n / 262144 * 64 + n / 4096 % 64) * 64 + n / 64 % 64) * 64 + n % 64 = n := by omega
    have first : (n / 65536).toUInt8 = a := toUInt8_eq_of_mod (by omega)
    have second : (n / 256).toUInt8 = b := toUInt8_eq_of_mod (by omega)
    have third : n.toUInt8 = c := toUInt8_eq_of_mod (by omega)
    rw [decodeGroups_three (by omega) (by omega) (by omega) (by omega), ih, hn, Option.map_some,
      first, second, third]

/-- Every sequence of bytes is read back from its text. -/
theorem decode?_encode (bytes : List UInt8) : decode? (encode bytes) = some bytes :=
  decodeGroups_encode false bytes

end TermPilot.Text.Base64
