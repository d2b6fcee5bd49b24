import TermPilot.Text.Utf8

/-!
# UTF-8 reads back

The decoder reports exactly the character whose bytes it reads and is at a character boundary
again afterwards. Hence every text is read back from its bytes.
-/

namespace TermPilot.Text.Utf8

/-! ## Single bytes -/

theorem toNat_byte {b : Nat} (h : b < 0x100) : (UInt8.ofNat b).toNat = b :=
  UInt8.toNat_ofNat_of_lt' h

section Steps

variable {b : Nat}

theorem step_one (h : b < 0x80) :
    step none (UInt8.ofNat b) = ([.char (Char.ofNat b)], none) := by
  rw [step, start, toNat_byte (by omega), if_pos h]

theorem step_two (low : 0xC2 ≤ b) (high : b < 0xE0) :
    step none (UInt8.ofNat b) = ([], some ⟨1, 0x80, 0xBF, b - 0xC0⟩) := by
  rw [step, start, toNat_byte (by omega), if_neg (by omega), if_neg (by omega), if_pos high]

theorem step_three (low : 0xE0 ≤ b) (high : b < 0xF0) :
    step none (UInt8.ofNat b) = ([], some ⟨2, if b = 0xE0 then 0xA0 else 0x80,
      if b = 0xED then 0x9F else 0xBF, b - 0xE0⟩) := by
  rw [step, start, toNat_byte (by omega), if_neg (by omega), if_neg (by omega),
    if_neg (by omega), if_pos high]

theorem step_four (low : 0xF0 ≤ b) (high : b < 0xF5) :
    step none (UInt8.ofNat b) = ([], some ⟨3, if b = 0xF0 then 0x90 else 0x80,
      if b = 0xF4 then 0x8F else 0xBF, b - 0xF0⟩) := by
  rw [step, start, toNat_byte (by omega), if_neg (by omega), if_neg (by omega),
    if_neg (by omega), if_neg (by omega), if_pos high]

variable {s : Started}

theorem step_more (bound : b < 0x100) (low : s.low ≤ b) (high : b ≤ s.high) (more : 1 < s.more) :
    step (some s) (UInt8.ofNat b) =
      ([], some ⟨s.more - 1, 0x80, 0xBF, s.bits * 64 + (b - 0x80)⟩) := by
  simp only [step, toNat_byte bound, low, high, decide_true, Bool.and_self, if_true]
  rw [if_neg (by omega)]

theorem step_last (bound : b < 0x100) (low : s.low ≤ b) (high : b ≤ s.high) (last : s.more ≤ 1) :
    step (some s) (UInt8.ofNat b) = ([.char (Char.ofNat (s.bits * 64 + (b - 0x80)))], none) := by
  simp only [step, toNat_byte bound, low, high, decide_true, Bool.and_self, if_true]
  rw [if_pos last]

end Steps

/-! ## Characters -/

section Run

variable {state next : State} {byte : UInt8}

/-- A byte that ends nothing moves the machine on. -/
theorem run_cons_of_silent (h : step state byte = ([], next)) (bytes : List UInt8) :
    run state (byte :: bytes) = run next bytes := by
  rw [run, h]
  rfl

/-- A byte that ends a character reports it. -/
theorem run_cons_of_char {c : Char} (h : step state byte = ([.char c], none))
    (bytes : List UInt8) :
    run state (byte :: bytes) = (.char c :: (run none bytes).1, (run none bytes).2) := by
  rw [run, h]
  rfl

end Run

/-- The bytes of a character are reported as that character. -/
theorem run_encodeChar (c : Char) (rest : List UInt8) :
    run none (String.utf8EncodeChar c ++ rest) =
      (.char c :: (run none rest).1, (run none rest).2) := by
  have hvalid : c.val.toNat < 0xD800 ∨ 0xDFFF < c.val.toNat ∧ c.val.toNat < 0x110000 := c.valid
  have hc : Char.ofNat c.val.toNat = c := Char.ofNat_toNat c
  rw [String.utf8EncodeChar]
  generalize c.val.toNat = v at hvalid hc ⊢
  -- one case for each length of the encoding; the last byte restores the value `v`
  by_cases one : v ≤ 0x7F
  · rw [if_pos one]
    apply run_cons_of_char
    rw [step_one (by omega), hc]
  by_cases two : v ≤ 0x7FF
  · rw [if_neg one, if_pos two]
    refine (run_cons_of_silent (step_two (by omega) (by omega)) _).trans ?_
    apply run_cons_of_char
    rw [step_last (by omega) (by simp) (by simp; omega) (by simp)]
    have bits : (v / 64 % 0x20 + 0xC0 - 0xC0) * 64 + (v % 0x40 + 0x80 - 0x80) = v := by omega
    rw [bits, hc]
  by_cases three : v ≤ 0xFFFF
  · rw [if_neg one, if_neg two, if_pos three]
    refine (run_cons_of_silent (step_three (by omega) (by omega)) _).trans ?_
    refine (run_cons_of_silent (step_more (by omega) ?_ ?_ (by simp)) _).trans ?_
    · show (if _ then _ else _) ≤ _
      split <;> omega
    · show _ ≤ if _ then _ else _
      split <;> omega
    apply run_cons_of_char
    rw [step_last (by omega) (by simp) (by simp; omega) (by simp)]
    have bits : ((v / 4096 % 0x10 + 0xE0 - 0xE0) * 64 + (v / 64 % 0x40 + 0x80 - 0x80)) * 64 +
        (v % 0x40 + 0x80 - 0x80) = v := by omega
    rw [bits, hc]
  · rw [if_neg one, if_neg two, if_neg three]
    refine (run_cons_of_silent (step_four (by omega) (by omega)) _).trans ?_
    refine (run_cons_of_silent (step_more (by omega) ?_ ?_ (by simp)) _).trans ?_
    · show (if _ then _ else _) ≤ _
      split <;> omega
    · show _ ≤ if _ then _ else _
      split <;> omega
    refine
      (run_cons_of_silent (step_more (by omega) (by simp) (by simp; omega) (by simp)) _).trans ?_
    apply run_cons_of_char
    rw [step_last (by omega) (by simp) (by simp; omega) (by simp)]
    have bits : (((v / 262144 % 0x08 + 0xF0 - 0xF0) * 64 + (v / 4096 % 0x40 + 0x80 - 0x80)) * 64 +
        (v / 64 % 0x40 + 0x80 - 0x80)) * 64 + (v % 0x40 + 0x80 - 0x80) = v := by omega
    rw [bits, hc]

theorem run_encode (t : Text) : run none (encode t) = (t.map .char, none) := by
  induction t with
  | nil => rfl
  | cons c rest ih =>
    rw [encode, List.flatMap_cons, run_encodeChar, ← encode, ih]
    rfl

theorem mapM_char (t : Text) :
    ((t.map Report.char).mapM fun
      | .char c => some c
      | .illFormed => none) = some t := by
  induction t with
  | nil => rfl
  | cons c rest ih =>
    rw [List.map_cons, List.mapM_cons, ih]
    rfl

/-! ## Inputs that go on -/

theorem run_cons (state : State) (byte : UInt8) (bytes : List UInt8) :
    run state (byte :: bytes) =
      ((step state byte).1 ++ (run (step state byte).2 bytes).1,
        (run (step state byte).2 bytes).2) := rfl

theorem run_append (state : State) (first later : List UInt8) :
    run state (first ++ later) =
      ((run state first).1 ++ (run (run state first).2 later).1,
        (run (run state first).2 later).2) := by
  induction first generalizing state with
  | nil => rfl
  | cons byte first ih =>
    rw [List.cons_append, run_cons, ih, run_cons, List.append_assoc]

/-- An input that goes on keeps the text that is decoded so far, but for the mark of a character
that is left unfinished. -/
theorem exists_decoded (bytes : List UInt8) : ∃ decoded mark : Text,
    decodeMarked bytes = decoded ++ mark ∧ (mark = [] ∨ mark = [Char.ofNat 0xFFFD]) ∧
      ∀ later, decoded <+: decodeMarked (bytes ++ later) := by
  have hkeeps (later : List UInt8) :
      (run none bytes).1.map Report.charOrMark <+: decodeMarked (bytes ++ later) := by
    rw [decodeMarked]
    refine List.IsPrefix.map _ ?_
    rw [reports, run_append]
    split
    · next hrun =>
      rw [← (Prod.mk.inj hrun).1]
      exact List.prefix_append _ _
    · next hrun =>
      rw [← (Prod.mk.inj hrun).1, List.append_assoc]
      exact List.prefix_append _ _
  rcases hrun : run none bytes with ⟨found, _ | started⟩
  · refine ⟨found.map Report.charOrMark, [], ?_, Or.inl rfl, ?_⟩
    · rw [decodeMarked, reports, hrun, List.append_nil]
    · rwa [hrun] at hkeeps
  · refine ⟨found.map Report.charOrMark, [Char.ofNat 0xFFFD], ?_, Or.inr rfl, ?_⟩
    · rw [decodeMarked, reports, hrun, List.map_append]
      rfl
    · rwa [hrun] at hkeeps

/-! ## Texts -/

/-- Every text is read back from its bytes. -/
theorem decode?_encode (t : Text) : decode? (encode t) = some t := by
  rw [decode?, reports, run_encode]
  exact mapM_char t

end TermPilot.Text.Utf8
