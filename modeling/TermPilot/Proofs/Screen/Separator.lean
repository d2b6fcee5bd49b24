import Mathlib.Data.List.Nodup
import Mathlib.Tactic.SplitIfs
import TermPilot.Screen.Separator

/-!
# Where separators are found

The finders count the bars of all columns or rows at once and keep the best place. What they find is
the place with the most bars, as the bars of one column or row are listed, and of several the first.
-/

namespace TermPilot.Screen

/-! ## The bars that are listed -/

section Listed

/-- The places of a list whose entries satisfy a test are as many as those entries. -/
theorem countP_range {α : Type} (test : Option α → Bool) (l : List α) :
    (List.range l.length).countP (fun place => test l[place]?) =
      l.countP fun entry => test (some entry) := by
  induction l with
  | nil => rfl
  | cons entry l ih =>
    rw [List.length_cons, List.range_succ_eq_map, List.countP_cons, List.countP_map,
      List.countP_cons, ← ih]
    rfl

theorem length_barRows (all : List Text) (col : Nat) :
    (barRows all col).length = all.countP fun text => text[col]? == some verticalBar := by
  rw [barRows, ← List.countP_eq_length_filter]
  exact countP_range (fun line => (line.bind fun text => text[col]?) == some verticalBar) all

theorem length_barColumns (line : Text) :
    (barColumns line).length = line.count horizontalBar := by
  rw [barColumns, ← List.countP_eq_length_filter, List.count]
  refine (countP_range (fun c => c == some horizontalBar) line).trans ?_
  exact List.countP_congr fun c _ => by simp

end Listed

/-! ## The bars that are counted -/

/-- How many bars a tally holds in a column. -/
def BarTally.bars : BarTally → Nat → Nat
  | [], _ => 0
  | (other, count) :: rest, col => if other = col then count else BarTally.bars rest col

/-- No column stands in the tally twice. -/
def BarTally.IsDistinct (tally : BarTally) : Prop := (tally.map Prod.fst).Nodup

section Tally

variable {tally : BarTally} {col count : Nat}

theorem bars_increment (tally : BarTally) (col other : Nat) :
    (tally.increment col).bars other = tally.bars other + if col = other then 1 else 0 := by
  induction tally with
  | nil => simp [BarTally.increment, BarTally.bars]
  | cons entry rest ih =>
    obtain ⟨first, count⟩ := entry
    rw [BarTally.increment]
    by_cases hfirst : first = col
    · rw [if_pos hfirst, BarTally.bars, BarTally.bars, hfirst]
      split_ifs <;> rfl
    · rw [if_neg hfirst, BarTally.bars, BarTally.bars, ih]
      by_cases hother : first = other
      · have hne : col ≠ other := fun h => hfirst (hother.trans h.symm)
        rw [if_pos hother, if_pos hother, if_neg hne, Nat.add_zero]
      · rw [if_neg hother, if_neg hother]

theorem mem_of_bars_pos (h : 0 < tally.bars col) : (col, tally.bars col) ∈ tally := by
  induction tally with
  | nil => exact absurd h (Nat.lt_irrefl 0)
  | cons entry rest ih =>
    obtain ⟨first, count⟩ := entry
    rw [BarTally.bars] at h ⊢
    split_ifs at h ⊢ with hfirst
    · rw [hfirst]
      exact List.mem_cons_self
    · exact List.mem_cons_of_mem _ (ih h)

theorem BarTally.IsDistinct.bars_of_mem (h : tally.IsDistinct) (hmem : (col, count) ∈ tally) :
    tally.bars col = count := by
  induction tally with
  | nil => exact absurd hmem List.not_mem_nil
  | cons entry rest ih =>
    obtain ⟨first, found⟩ := entry
    obtain ⟨hfirst, hrest⟩ := List.nodup_cons.mp h
    rw [BarTally.bars]
    rcases List.mem_cons.mp hmem with heq | hmem
    · obtain ⟨rfl, rfl⟩ := Prod.mk.inj heq
      rw [if_pos rfl]
    · have hcol : col ∈ rest.map Prod.fst := List.mem_map_of_mem hmem
      have hne : first ≠ col := fun heq => hfirst (heq ▸ hcol)
      rw [if_neg hne]
      exact ih hrest hmem

theorem mem_map_increment {other : Nat} :
    other ∈ (tally.increment col).map Prod.fst ↔ other = col ∨ other ∈ tally.map Prod.fst := by
  induction tally with
  | nil => simp [BarTally.increment]
  | cons entry rest ih =>
    obtain ⟨first, count⟩ := entry
    rw [BarTally.increment]
    split_ifs with hfirst
    · simp [hfirst]
    · rw [List.map_cons, List.mem_cons, ih, List.map_cons, List.mem_cons]
      exact or_left_comm

theorem BarTally.IsDistinct.increment (h : tally.IsDistinct) (col : Nat) :
    (tally.increment col).IsDistinct := by
  induction tally with
  | nil => exact List.nodup_singleton col
  | cons entry rest ih =>
    obtain ⟨first, count⟩ := entry
    obtain ⟨hfirst, hrest⟩ := List.nodup_cons.mp h
    rw [BarTally.increment]
    split_ifs with hcol
    · exact List.nodup_cons.mpr ⟨hfirst, hrest⟩
    · refine List.nodup_cons.mpr ⟨?_, ih hrest⟩
      rw [mem_map_increment, not_or]
      exact ⟨hcol, hfirst⟩

/-- A line adds one bar in each column where it holds one; the induction is on the characters, of
which the first stands in the column `position`. -/
theorem bars_addLine (position : Nat) (tally : BarTally) (text : Text) (col : Nat) :
    (tally.addLine position text).bars col = tally.bars col +
      if position ≤ col ∧ text[col - position]? = some verticalBar then 1 else 0 := by
  induction text generalizing position tally with
  | nil => simp [BarTally.addLine]
  | cons c rest ih =>
    have hfirst : (if c = verticalBar then tally.increment position else tally).bars col =
        tally.bars col + if position = col ∧ c = verticalBar then 1 else 0 := by
      by_cases hc : c = verticalBar
      · rw [if_pos hc, bars_increment]
        simp only [hc, and_true]
      · rw [if_neg hc]
        simp only [hc, and_false, if_false, Nat.add_zero]
    rw [BarTally.addLine, ih, hfirst, Nat.add_assoc]
    congr 1
    rcases Nat.lt_trichotomy col position with hlt | rfl | hgt
    · have hne : position ≠ col := Nat.ne_of_gt hlt
      have hafter : ¬ position + 1 ≤ col := by omega
      simp only [hne, hafter, Nat.not_le_of_lt hlt, false_and, if_false, Nat.add_zero]
    · have hafter : ¬ col + 1 ≤ col := Nat.not_succ_le_self col
      simp only [hafter, false_and, if_false, true_and, Nat.add_zero, Nat.le_refl, Nat.sub_self,
        List.getElem?_cons_zero, Option.some.injEq]
    · obtain ⟨offset, rfl⟩ := Nat.exists_eq_add_of_lt hgt
      have hne : position ≠ position + offset + 1 := by omega
      have hplace : position + offset + 1 - position = offset + 1 := by omega
      have hafter : position + offset + 1 - (position + 1) = offset := by omega
      have hle : position + 1 ≤ position + offset + 1 := by omega
      simp only [hne, hplace, hafter, hle, Nat.le_of_lt hgt, false_and, if_false, true_and,
        Nat.zero_add, List.getElem?_cons_succ]

theorem BarTally.IsDistinct.addLine (h : tally.IsDistinct) (position : Nat) (line : Text) :
    (tally.addLine position line).IsDistinct := by
  induction line generalizing position tally with
  | nil => exact h
  | cons c rest ih =>
    refine ih ?_ (position + 1)
    split_ifs
    · exact h.increment position
    · exact h

theorem bars_foldl_addLine (all : List Text) (tally : BarTally) (col : Nat) :
    BarTally.bars (all.foldl (BarTally.addLine 0) tally) col =
      tally.bars col + (barRows all col).length := by
  induction all generalizing tally with
  | nil => rfl
  | cons line rest ih =>
    rw [List.foldl_cons, ih, bars_addLine, length_barRows, length_barRows, List.countP_cons]
    simp only [Nat.zero_le, true_and, Nat.sub_zero, beq_iff_eq]
    omega

theorem bars_tallyBars (all : List Text) (col : Nat) :
    (tallyBars all).bars col = (barRows all col).length := by
  rw [tallyBars, bars_foldl_addLine]
  exact Nat.zero_add _

theorem isDistinct_foldl_addLine (h : tally.IsDistinct) (all : List Text) :
    BarTally.IsDistinct (all.foldl (BarTally.addLine 0) tally) := by
  induction all generalizing tally with
  | nil => exact h
  | cons line rest ih => exact ih (h.addLine 0 line)

theorem isDistinct_tallyBars (all : List Text) : (tallyBars all).IsDistinct :=
  @isDistinct_foldl_addLine [] List.nodup_nil all

end Tally

/-! ## The best place -/

section Best

variable {a b c best column : Nat × Nat} {rest : BarTally}

theorem outranks_iff :
    outranks a b = true ↔ b.2 < a.2 ∨ a.2 = b.2 ∧ a.1 < b.1 := by
  simp [outranks]

theorem not_outranks_trans (hab : ¬ outranks a b) (hbc : ¬ outranks b c) : ¬ outranks a c := by
  rw [outranks_iff] at *
  omega

theorem not_outranks_self (a : Nat × Nat) : ¬ outranks a a := by
  rw [outranks_iff]
  omega

theorem not_outranks_of_outranks (h : outranks a b) : ¬ outranks b a := by
  rw [outranks_iff] at *
  omega

theorem foremost_mem (best : Nat × Nat) (rest : BarTally) :
    foremost best rest ∈ best :: rest := by
  induction rest generalizing best with
  | nil => exact List.mem_cons_self
  | cons next rest ih =>
    rw [foremost]
    split_ifs
    · exact List.mem_cons_of_mem best (ih next)
    · rcases List.mem_cons.mp (ih best) with heq | hmem
      · rw [heq]
        exact List.mem_cons_self
      · exact List.mem_cons_of_mem best (List.mem_cons_of_mem next hmem)

/-- No column outranks the one that is kept at the end; the induction is on the columns to come,
behind which the better one of the first two stands for both. -/
theorem not_outranks_foremost (h : column ∈ best :: rest) :
    ¬ outranks column (foremost best rest) := by
  induction rest generalizing best column with
  | nil =>
    rw [List.mem_singleton.mp h]
    exact not_outranks_self best
  | cons next rest ih =>
    rw [foremost]
    by_cases hnext : outranks next best
    · rw [if_pos hnext]
      rcases List.mem_cons.mp h with rfl | hmem
      · exact not_outranks_trans (not_outranks_of_outranks hnext) (ih List.mem_cons_self)
      · exact ih hmem
    · rw [if_neg hnext]
      rcases List.mem_cons.mp h with rfl | hmem
      · exact ih List.mem_cons_self
      rcases List.mem_cons.mp hmem with rfl | hmem
      · exact not_outranks_trans hnext (ih List.mem_cons_self)
      · exact ih (List.mem_cons_of_mem best hmem)

end Best

/-- What has been found among the places that were seen is the first of those with the greatest
count, together with this count, and nothing is found only if no count is above the threshold. -/
def Finds (seen : Nat → Prop) (count : Nat → Nat) : Option (Nat × Nat) → Prop
  | none => ∀ place, seen place → count place ≤ separatorThreshold
  | some (place, greatest) => seen place ∧ count place = greatest ∧ separatorThreshold < greatest ∧
      ∀ other, seen other → count other ≤ greatest ∧ (other < place → count other < greatest)

section Found

variable {count : Nat → Nat} {best : Option (Nat × Nat)} {position : Nat}

/-- A place with a greater count than all in front of it is the one that is found. -/
theorem finds_of_greater (habove : separatorThreshold < count position)
    (hseen : ∀ other < position, count other < count position) :
    Finds (· < position + 1) count (some (position, count position)) := by
  refine ⟨Nat.lt_succ_self position, rfl, habove, fun other hother => ?_⟩
  rcases Nat.lt_succ_iff_lt_or_eq.mp hother with hlt | rfl
  · exact ⟨Nat.le_of_lt (hseen other hlt), fun _ => hseen other hlt⟩
  · exact ⟨Nat.le_refl _, fun hself => absurd hself (Nat.lt_irrefl other)⟩

/-- The place behind those that were seen is better if its count is above the threshold and above
that of the best one so far. -/
theorem Finds.step (h : Finds (· < position) count best) :
    Finds (· < position + 1) count
      (if separatorThreshold < count position && best.all fun found => found.2 < count position
        then some (position, count position) else best) := by
  cases best with
  | none =>
    have hseen : ∀ other < position, count other ≤ separatorThreshold := h
    by_cases habove : separatorThreshold < count position
    · rw [if_pos (by simpa using habove)]
      exact finds_of_greater habove fun other hlt => Nat.lt_of_le_of_lt (hseen other hlt) habove
    · rw [if_neg (by simpa using habove)]
      intro other hother
      rcases Nat.lt_succ_iff_lt_or_eq.mp hother with hlt | rfl
      · exact hseen other hlt
      · exact Nat.le_of_not_lt habove
  | some found =>
    obtain ⟨place, greatest⟩ := found
    obtain ⟨hplace, hcount, habove, hseen⟩ := h
    by_cases hgreater : greatest < count position
    · have hbetter : separatorThreshold < count position := Nat.lt_trans habove hgreater
      rw [if_pos (by simpa using ⟨hbetter, hgreater⟩)]
      exact finds_of_greater hbetter fun other hlt =>
        Nat.lt_of_le_of_lt (hseen other hlt).1 hgreater
    · rw [if_neg fun hboth => hgreater (by simpa using (Bool.and_eq_true _ _).mp hboth |>.2)]
      refine ⟨Nat.lt_succ_of_lt hplace, hcount, habove, fun other hother => ?_⟩
      rcases Nat.lt_succ_iff_lt_or_eq.mp hother with hlt | rfl
      · exact hseen other hlt
      · exact ⟨Nat.le_of_not_lt hgreater, fun hself => absurd hself (Nat.lt_asymm hplace)⟩

/-- What is found at the end of a list of counts, the first of which is that of `position`. -/
theorem Finds.run {counts : List Nat} (h : Finds (· < position) count best)
    (hcounts : ∀ offset, ∀ n ∈ counts[offset]?, n = count (position + offset)) :
    Finds (· < position + counts.length) count (firstGreatest position best counts) := by
  induction counts generalizing position best with
  | nil => exact h
  | cons first rest ih =>
    obtain rfl : first = count position := hcounts 0 first rfl
    have hrest : ∀ offset, ∀ n ∈ rest[offset]?, n = count (position + 1 + offset) := by
      intro offset n hn
      rw [hcounts (offset + 1) n hn, Nat.add_right_comm, Nat.add_assoc]
    have hstep := ih h.step hrest
    rwa [Nat.add_right_comm, Nat.add_assoc] at hstep

/-- Places without a count can be left out. -/
theorem Finds.of_lt {bound : Nat} (h : Finds (· < bound) count best)
    (hbound : ∀ place, bound ≤ place → count place = 0) : Finds (fun _ => True) count best := by
  cases best with
  | none =>
    intro place _
    rcases Nat.lt_or_ge place bound with hlt | hge
    · exact h place hlt
    · rw [hbound place hge]
      exact Nat.zero_le separatorThreshold
  | some found =>
    obtain ⟨place, greatest⟩ := found
    obtain ⟨-, hcount, habove, hseen⟩ := h
    refine ⟨trivial, hcount, habove, fun other _ => ?_⟩
    rcases Nat.lt_or_ge other bound with hlt | hge
    · exact hseen other hlt
    · rw [hbound other hge]
      exact ⟨Nat.zero_le greatest, fun _ => Nat.zero_lt_of_lt habove⟩

end Found

/-! ## Separators -/

/-- Of all places, this one is the first with the greatest count, and its count is above five. -/
structure IsLeading (count : Int → Nat) (place : Int) : Prop where
  above : 5 < count place
  greatest : ∀ other, count other ≤ count place
  first : ∀ other < place, count other < count place

section Leading

variable {count : Int → Nat} {best : Option (Nat × Nat)} {place other : Int}

theorem IsLeading.unique (h : IsLeading count place) (hother : IsLeading count other) :
    place = other := by
  rcases Int.lt_trichotomy place other with hlt | heq | hgt
  · exact absurd (hother.first place hlt) (Nat.not_lt_of_le (h.greatest other))
  · exact heq
  · exact absurd (h.first other hgt) (Nat.not_lt_of_le (hother.greatest place))

/-- What is found among the places from zero on, if there is nothing in front of them. -/
theorem Finds.iff_isLeading (h : Finds (fun _ => True) (fun place => count place) best)
    (hneg : ∀ place < 0, count place = 0) :
    (∀ place : Int, (best.map Prod.fst).map Nat.cast = some place ↔ IsLeading count place) ∧
      (best.map Prod.fst = none ↔ ∀ place, count place ≤ 5) := by
  cases best with
  | none =>
    have hbelow : ∀ place, count place ≤ 5 := by
      intro place
      cases place with
      | ofNat n => exact h n trivial
      | negSucc n =>
        rw [hneg _ (Int.negSucc_lt_zero n)]
        exact Nat.zero_le 5
    refine ⟨fun place => iff_of_false (by simp) fun hleading => ?_, iff_of_true rfl hbelow⟩
    exact absurd hleading.above (Nat.not_lt_of_le (hbelow place))
  | some found =>
    obtain ⟨n, greatest⟩ := found
    obtain ⟨-, rfl, habove, hseen⟩ := h
    have hleading : IsLeading count n := by
      refine ⟨habove, fun other => ?_, fun other hother => ?_⟩
      · cases other with
        | ofNat m => exact (hseen m trivial).1
        | negSucc m =>
          rw [hneg _ (Int.negSucc_lt_zero m)]
          exact Nat.zero_le _
      · cases other with
        | ofNat m => exact (hseen m trivial).2 (Int.ofNat_lt.mp hother)
        | negSucc m =>
          rw [hneg _ (Int.negSucc_lt_zero m)]
          exact Nat.zero_lt_of_lt habove
    refine ⟨fun place => ?_, iff_of_false (by simp) fun hbelow => ?_⟩
    · rw [Option.map_some, Option.map_some, Option.some.injEq]
      exact ⟨fun heq => heq ▸ hleading, fun hplace => hleading.unique hplace⟩
    · exact absurd habove (Nat.not_lt_of_le (hbelow n))

end Leading

section Finders

variable {tally rest : BarTally} {column : Nat × Nat}

/-- A column has no bars, or no more than the foremost one, and fewer if it stands before that. -/
theorem bars_foremost (htally : tally = column :: rest) (col : Nat) :
    tally.bars col = 0 ∨ (tally.bars col ≤ (foremost column rest).2 ∧
      (col < (foremost column rest).1 → tally.bars col < (foremost column rest).2)) := by
  rcases Nat.eq_zero_or_pos (tally.bars col) with hzero | hpos
  · exact Or.inl hzero
  · have hcol : (col, tally.bars col) ∈ column :: rest := by
      rw [← htally]
      exact mem_of_bars_pos hpos
    have hrank := not_outranks_foremost hcol
    rw [outranks_iff] at hrank
    omega

theorem BarTally.IsDistinct.finds_foremost (h : tally.IsDistinct) (htally : tally = column :: rest)
    (habove : separatorThreshold < (foremost column rest).2) :
    Finds (fun _ => True) tally.bars (some (foremost column rest)) := by
  have hmem : foremost column rest ∈ tally := htally ▸ foremost_mem column rest
  refine ⟨trivial, h.bars_of_mem hmem, habove, fun other _ => ?_⟩
  have hother := bars_foremost htally other
  omega

theorem exists_finds_verticalSeparator? (clean : Text) :
    ∃ best, verticalSeparator? clean = best.map Prod.fst ∧
      Finds (fun _ => True) (fun col => (separatorRowsAt clean col).length) best := by
  have hbars : (fun col : Nat => (separatorRowsAt clean col).length) =
      (tallyBars (lines clean)).bars := by
    funext col
    rw [bars_tallyBars, separatorRowsAt, if_neg (by omega), Int.toNat_natCast]
  have hdistinct := isDistinct_tallyBars (lines clean)
  rw [hbars, verticalSeparator?]
  split
  · next hnone =>
    rw [hnone]
    exact ⟨none, rfl, fun col _ => Nat.zero_le separatorThreshold⟩
  · next column rest htally =>
    by_cases habove : separatorThreshold < (foremost column rest).2
    · exact ⟨some (foremost column rest), if_pos habove, hdistinct.finds_foremost htally habove⟩
    · refine ⟨none, if_neg habove, fun col _ => ?_⟩
      have hcol := bars_foremost htally col
      omega

theorem length_separatorColumnsAt (clean : Text) (row : Nat) :
    (separatorColumnsAt clean row).length =
      (((lines clean).map (List.count horizontalBar))[row]?).getD 0 := by
  rw [separatorColumnsAt, if_neg (by omega), Int.toNat_natCast, List.getElem?_map]
  cases (lines clean)[row]? with
  | none => rfl
  | some line => exact length_barColumns line

/-- The row that is found is one of the rows of the dump. -/
theorem exists_finds_horizontalSeparator? (clean : Text) :
    ∃ best, horizontalSeparator? clean = best.map Prod.fst ∧
      Finds (· < (lines clean).length) (fun row => (separatorColumnsAt clean row).length) best := by
  have hnone : Finds (· < 0) (fun row => (separatorColumnsAt clean row).length) none :=
    fun row hrow => absurd hrow (Nat.not_lt_zero row)
  have hrun := @Finds.run _ _ _ ((lines clean).map (List.count horizontalBar)) hnone ?_
  · rw [List.length_map, Nat.zero_add] at hrun
    exact ⟨_, rfl, hrun⟩
  · intro offset n hn
    rw [Nat.zero_add, length_separatorColumnsAt, Option.mem_def.mp hn, Option.getD_some]

end Finders

/-- The vertical separator that is found is the first column of those with the most vertical bars,
which are more than five, and none is found only if no column has more than five. -/
theorem verticalSeparator?_iff (clean : Text) :
    (∀ col : Int, (verticalSeparator? clean).map Nat.cast = some col ↔
      IsLeading (fun other => (separatorRowsAt clean other).length) col) ∧
    (verticalSeparator? clean = none ↔ ∀ col, (separatorRowsAt clean col).length ≤ 5) := by
  obtain ⟨best, hbest, hfinds⟩ := exists_finds_verticalSeparator? clean
  rw [hbest]
  refine hfinds.iff_isLeading fun col hcol => ?_
  rw [separatorRowsAt, if_pos hcol, List.length_nil]

/-- Of two columns with six bars each the first is the separator. -/
example : verticalSeparator? (Text.join ['\n'] (List.replicate 6 "ab│cd│".toList)) = some 2 := by
  decide

/-- The horizontal separator that is found is the first row of those with the most horizontal bars,
which are more than five, and none is found only if no row has more than five. -/
theorem horizontalSeparator?_iff (clean : Text) :
    (∀ row : Int, (horizontalSeparator? clean).map Nat.cast = some row ↔
      IsLeading (fun other => (separatorColumnsAt clean other).length) row) ∧
    (horizontalSeparator? clean = none ↔ ∀ row, (separatorColumnsAt clean row).length ≤ 5) := by
  obtain ⟨best, hbest, hfinds⟩ := exists_finds_horizontalSeparator? clean
  have hbelow : ∀ row : Nat, (lines clean).length ≤ row →
      (separatorColumnsAt clean row).length = 0 := by
    intro row hrow
    rw [length_separatorColumnsAt, List.getElem?_eq_none (by rwa [List.length_map]),
      Option.getD_none]
  rw [hbest]
  refine (hfinds.of_lt hbelow).iff_isLeading fun row hrow => ?_
  rw [separatorColumnsAt, if_pos hrow, List.length_nil]

end TermPilot.Screen
