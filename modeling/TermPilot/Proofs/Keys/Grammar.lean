import TermPilot.Proofs.Keys.Line

/-!
# The grammar of key names

Every name is cut in one way into marks of modifiers and a base that begins with no mark. The base
alone decides which key is meant, and the set of the marks which modifiers are held with it, so that
neither the order of the marks nor how often one is written matters. The presses that have a name
are those of the keys with a word, of the function keys up to 255 and of single characters.
-/

namespace TermPilot

/-- The modifiers that are held on one side or on the other. -/
def Modifiers.union (a b : Modifiers) : Modifiers :=
  { shift := a.shift || b.shift, alt := a.alt || b.alt, ctrl := a.ctrl || b.ctrl }

theorem Modifiers.union_nothing (mods : Modifiers) : mods.union {} = mods := by
  simp [union]

theorem Modifiers.nothing_union (mods : Modifiers) : union {} mods = mods := by
  simp [union]

namespace KeyPress

/-! ## Marks and the base -/

/-- The modifiers that marks stand for. -/
def heldBy (front : List Text) : Modifiers :=
  { shift := front.contains "S-".toList, alt := front.contains "A-".toList,
    ctrl := front.contains "C-".toList }

/-- The name is made of marks and of a base that begins with no mark. -/
structure IsCut (front : List Text) (base name : Text) : Prop where
  /-- In front there are marks only. -/
  marked : ∀ mark ∈ front, mark ∈ marks
  /-- All marks are in front. -/
  unmarked : ∀ mark ∈ marks, ¬ mark <+: base
  /-- Nothing else belongs to the name. -/
  whole : name = front.flatten ++ base

theorem mark_cases {mark : Text} (h : mark ∈ marks) :
    mark = "C-".toList ∨ mark = "A-".toList ∨ mark = "S-".toList := by
  simpa only [marks, List.mem_cons, List.not_mem_nil, or_false] using h

theorem length_of_mem_marks {mark : Text} (h : mark ∈ marks) : mark.length = 2 := by
  have hall : ∀ mark ∈ marks, mark.length = 2 := by decide
  exact hall mark h

theorem heldBy_congr {front other : List Text} (h : ∀ mark, mark ∈ other ↔ mark ∈ front) :
    heldBy other = heldBy front := by
  have hcontains (mark : Text) : other.contains mark = front.contains mark := by
    rw [Bool.eq_iff_iff, List.contains_iff_mem, List.contains_iff_mem, h]
  simp only [heldBy, hcontains]

/-- A base is left as it is. -/
theorem cutMarks_of_unmarked {base : Text} (h : ∀ mark ∈ marks, ¬ mark <+: base)
    (mods : Modifiers) : cutMarks mods base = (mods, base) := by
  fun_cases cutMarks mods base with
  | case1 rest => exact absurd ⟨rest, rfl⟩ (h "C-".toList (by decide))
  | case2 rest => exact absurd ⟨rest, rfl⟩ (h "A-".toList (by decide))
  | case3 rest => exact absurd ⟨rest, rfl⟩ (h "S-".toList (by decide))
  | case4 => rfl

/-- Marks are cut off, and what they stand for is held besides. -/
theorem cutMarks_flatten {front : List Text} (h : ∀ mark ∈ front, mark ∈ marks)
    (mods : Modifiers) (rest : Text) :
    cutMarks mods (front.flatten ++ rest) = cutMarks (mods.union (heldBy front)) rest := by
  induction front generalizing mods with
  | nil => rw [show heldBy [] = {} from rfl, Modifiers.union_nothing, List.flatten_nil,
      List.nil_append]
  | cons mark front ih =>
    obtain ⟨hmark, hfront⟩ := List.forall_mem_cons.mp h
    rw [List.flatten_cons, List.append_assoc]
    -- one mark is cut off, and the others are held besides what it stands for
    rcases mark_cases hmark with rfl | rfl | rfl
    · show cutMarks { mods with ctrl := true } (front.flatten ++ rest) = _
      rw [ih hfront]
      simp [Modifiers.union, heldBy]
    · show cutMarks { mods with alt := true } (front.flatten ++ rest) = _
      rw [ih hfront]
      simp [Modifiers.union, heldBy]
    · show cutMarks { mods with shift := true } (front.flatten ++ rest) = _
      rw [ih hfront]
      simp [Modifiers.union, heldBy]

theorem IsCut.cutMarks_eq {front : List Text} {base name : Text} (h : IsCut front base name) :
    cutMarks {} name = (heldBy front, base) := by
  rw [h.whole, cutMarks_flatten h.marked, Modifiers.nothing_union, cutMarks_of_unmarked h.unmarked]

/-- What is left of a name after its marks begins with no mark. -/
theorem unmarked_cutMarks (mods : Modifiers) (name : Text) :
    ∀ mark ∈ marks, ¬ mark <+: (cutMarks mods name).2 := by
  fun_induction cutMarks mods name with
  | case1 mods rest ih => exact ih
  | case2 mods rest ih => exact ih
  | case3 mods rest ih => exact ih
  | case4 mods name hcontrol halt hshift =>
    rintro mark hmark ⟨rest, rfl⟩
    rcases mark_cases hmark with rfl | rfl | rfl
    · exact hcontrol rest rfl
    · exact halt rest rfl
    · exact hshift rest rfl

theorem exists_isCut (name : Text) : ∃ front base, IsCut front base name := by
  obtain ⟨front, hfront, hname⟩ := exists_marks {} name
  exact ⟨front, _, hfront, unmarked_cutMarks {} name, hname⟩

/-- All marks have the same length, so that they can be told apart when they are put together. -/
theorem marks_flatten_inj {front other : List Text} (hfront : ∀ mark ∈ front, mark ∈ marks)
    (hother : ∀ mark ∈ other, mark ∈ marks) (h : front.flatten = other.flatten) :
    front = other := by
  have hlengths {l : List Text} (hl : ∀ mark ∈ l, mark ∈ marks) :
      l.map List.length = List.replicate l.length 2 :=
    List.map_eq_replicate_iff.mpr fun mark hmark => length_of_mem_marks (hl mark hmark)
  have hcount : front.length = other.length := by
    have hsum := congrArg List.length h
    rw [List.length_flatten, List.length_flatten, hlengths hfront, hlengths hother,
      List.sum_replicate_nat, List.sum_replicate_nat] at hsum
    omega
  refine List.eq_iff_flatten_eq.mpr ⟨h, ?_⟩
  rw [hlengths hfront, hlengths hother, hcount]

theorem IsCut.unique {front other : List Text} {base rest name : Text}
    (h : IsCut front base name) (h' : IsCut other rest name) : front = other ∧ base = rest := by
  have hcut := h.cutMarks_eq.symm.trans h'.cutMarks_eq
  obtain rfl : base = rest := congrArg Prod.snd hcut
  have hflatten : front.flatten = other.flatten :=
    List.append_cancel_right (h.whole.symm.trans h'.whole)
  exact ⟨marks_flatten_inj h.marked h'.marked hflatten, rfl⟩

/-! ## What a base stands for -/

/-- The modifiers that a word holds besides those of the marks. -/
def heldByWord (word : String) : Modifiers := { shift := word = "backtab" }

/-- The letter of the function keys and the digits of a number. -/
structure IsFunctionBase (letter : Char) (digits : Text) : Prop where
  letter : letter = 'f' ∨ letter = 'F'
  digits : Text.isNumeral digits = true

/-- What looking up a base gives, with the modifiers held by its marks. -/
inductive Denotes (mods : Modifiers) : Text → Except NumeralError (Option KeyPress) → Prop where
  /-- A word stands for its key. -/
  | word {word : String} {key : Key} (hentry : (word, key) ∈ Key.words) :
      Denotes mods word.toList (.ok (some ⟨key, mods.union (heldByWord word)⟩))
  /-- A letter with a number stands for a function key. -/
  | function {letter : Char} {digits : Text} (hbase : IsFunctionBase letter digits)
      (hshort : digits.length ≤ 4300) (hvalue : Nat.ofDigitChars 10 digits 0 ≤ 255) :
      Denotes mods (letter :: digits)
        (.ok (some ⟨.function (Nat.ofDigitChars 10 digits 0), mods⟩))
  /-- A single character stands for itself. -/
  | char (c : Char) : Denotes mods [c] (.ok (some ⟨.char [c], mods⟩))
  /-- A number of too many digits is not looked up. -/
  | overlong {letter : Char} {digits : Text} (hbase : IsFunctionBase letter digits)
      (hlong : 4300 < digits.length) :
      Denotes mods (letter :: digits) (.error (.tooLong digits.length))
  /-- All other bases stand for nothing. -/
  | unknown {base : Text} (hword : ∀ entry ∈ Key.words, entry.1.toList ≠ base)
      (hfunction : ∀ letter digits, base = letter :: digits → IsFunctionBase letter digits →
        digits.length ≤ 4300 ∧ 255 < Nat.ofDigitChars 10 digits 0)
      (hchar : ∀ c, base ≠ [c]) : Denotes mods base (.ok none)

theorem ofWord?_eq_some_iff {base : Text} {key : Key} :
    Key.ofWord? base = some key ↔ ∃ word, (word, key) ∈ Key.words ∧ word.toList = base := by
  constructor
  · exact Text.exists_word_of_find?
  · rintro ⟨word, hentry, rfl⟩
    have hall : ∀ entry ∈ Key.words, Key.ofWord? entry.1.toList = some entry.2 := by decide
    exact hall (word, key) hentry

theorem ofWord?_eq_none_iff {base : Text} :
    Key.ofWord? base = none ↔ ∀ entry ∈ Key.words, entry.1.toList ≠ base := by
  rw [Option.eq_none_iff_forall_ne_some]
  constructor
  · rintro h ⟨word, key⟩ hentry rfl
    exact h key (ofWord?_eq_some_iff.mpr ⟨word, hentry, rfl⟩)
  · intro h key hkey
    obtain ⟨word, hentry, hword⟩ := ofWord?_eq_some_iff.mp hkey
    exact h (word, key) hentry hword

/-- Every word has several characters. -/
theorem ofWord?_char (c : Char) : Key.ofWord? [c] = none := by
  have hall : ∀ entry ∈ Key.words, entry.1.toList.length ≠ 1 := by decide
  refine ofWord?_eq_none_iff.mpr fun entry hentry hword => hall entry hentry ?_
  rw [hword, List.length_singleton]

/-- No word begins with the letter of the function keys. -/
theorem IsFunctionBase.ofWord?_eq_none {letter : Char} {digits : Text}
    (h : IsFunctionBase letter digits) : Key.ofWord? (letter :: digits) = none := by
  have hall : ∀ entry ∈ Key.words, entry.1.toList.head? ≠ some 'f' ∧
      entry.1.toList.head? ≠ some 'F' := by decide
  refine ofWord?_eq_none_iff.mpr fun entry hentry hword => ?_
  obtain ⟨hlower, hupper⟩ := hall entry hentry
  rw [hword, List.head?_cons] at hlower hupper
  rcases h.letter with rfl | rfl
  · exact hlower rfl
  · exact hupper rfl

section OfName

variable {front : List Text} {base name : Text}

theorem IsCut.ofName?_word {word : String} {key : Key} (h : IsCut front word.toList name)
    (hentry : (word, key) ∈ Key.words) :
    ofName? name = .ok (some ⟨key, (heldBy front).union (heldByWord word)⟩) := by
  have hbacktab : (word.toList == "backtab".toList) = decide (word = "backtab") := by
    rw [Bool.eq_iff_iff, beq_iff_eq, String.toList_inj, decide_eq_true_iff]
  rw [ofName?, h.cutMarks_eq]
  simp only [ofWord?_eq_some_iff.mpr ⟨word, hentry, rfl⟩, hbacktab]
  simp [Modifiers.union, heldByWord, pure, Except.pure]

theorem IsCut.ofName?_char {c : Char} (h : IsCut front [c] name) :
    ofName? name = .ok (some ⟨.char [c], heldBy front⟩) := by
  rw [ofName?, h.cutMarks_eq]
  simp only [ofWord?_char c]
  rfl

/-- A base of several characters that is no word is read as the letter and number of a function
key. -/
theorem IsCut.ofName?_number (h : IsCut front base name) (hword : Key.ofWord? base = none)
    (hchar : ∀ c, base ≠ [c]) :
    ofName? name = (functionNumber? base).map fun number =>
      number.map fun n => ⟨.function n, heldBy front⟩ := by
  rw [ofName?, h.cutMarks_eq]
  simp only [hword]
  match base, hchar with
  | [c], hchar => exact absurd rfl (hchar c)
  | [], _ => rfl
  | first :: second :: rest, _ =>
    rcases functionNumber? (first :: second :: rest) with error | _ | number <;> rfl

theorem functionNumber?_of_isFunctionBase {letter : Char} {digits : Text}
    (h : IsFunctionBase letter digits) :
    functionNumber? (letter :: digits) =
      if 4300 < digits.length then .error (.tooLong digits.length)
      else .ok (if Nat.ofDigitChars 10 digits 0 ≤ 255 then some (Nat.ofDigitChars 10 digits 0)
        else none) := by
  rw [functionNumber?, if_pos ⟨h.letter, h.digits⟩]
  split_ifs with hlong hvalue
  · rw [Double.plain_of_lt hlong]
    rfl
  · rw [Double.plain_of_le (Nat.not_lt.mp hlong)]
    exact congrArg Except.ok (if_pos hvalue)
  · rw [Double.plain_of_le (Nat.not_lt.mp hlong)]
    exact congrArg Except.ok (if_neg hvalue)

theorem functionNumber?_of_not_isFunctionBase
    (h : ∀ letter digits, base = letter :: digits → ¬ IsFunctionBase letter digits) :
    functionNumber? base = .ok none := by
  cases base with
  | nil => rfl
  | cons letter digits =>
    rw [functionNumber?, if_neg]
    · rfl
    · rintro ⟨hletter, hdigits⟩
      exact h letter digits rfl ⟨hletter, hdigits⟩

theorem IsFunctionBase.ne_singleton {letter : Char} {digits : Text}
    (h : IsFunctionBase letter digits) (c : Char) : letter :: digits ≠ [c] := by
  rintro hbase
  obtain ⟨-, rfl⟩ := List.cons.inj hbase
  exact absurd h.digits (by decide)

/-- Looking up a name gives what its base stands for. -/
theorem IsCut.denotes (h : IsCut front base name) :
    Denotes (heldBy front) base (ofName? name) := by
  cases hword : Key.ofWord? base with
  | some key =>
    obtain ⟨word, hentry, rfl⟩ := ofWord?_eq_some_iff.mp hword
    rw [h.ofName?_word hentry]
    exact .word hentry
  | none =>
    by_cases hchar : ∃ c, base = [c]
    · obtain ⟨c, rfl⟩ := hchar
      rw [h.ofName?_char]
      exact .char c
    have hseveral : ∀ c, base ≠ [c] := not_exists.mp hchar
    rw [h.ofName?_number hword hseveral]
    by_cases hfunction : ∃ letter digits, base = letter :: digits ∧ IsFunctionBase letter digits
    · obtain ⟨letter, digits, rfl, hbase⟩ := hfunction
      rw [functionNumber?_of_isFunctionBase hbase]
      split_ifs with hlong hvalue
      · exact .overlong hbase hlong
      · exact .function hbase (Nat.not_lt.mp hlong) hvalue
      · refine .unknown (ofWord?_eq_none_iff.mp hword) ?_ hseveral
        rintro letter' digits' heq -
        obtain ⟨-, rfl⟩ := List.cons.inj heq
        exact ⟨Nat.not_lt.mp hlong, Nat.not_le.mp hvalue⟩
    · have hnone : ∀ letter digits, base = letter :: digits → ¬ IsFunctionBase letter digits :=
        fun letter digits hbase hnumber => hfunction ⟨letter, digits, hbase, hnumber⟩
      rw [functionNumber?_of_not_isFunctionBase hnone]
      exact .unknown (ofWord?_eq_none_iff.mp hword)
        (fun letter digits hbase hnumber => absurd hnumber (hnone letter digits hbase)) hseveral

/-- A base stands for one thing only. -/
theorem IsCut.ofName?_eq_of_denotes {result : Except NumeralError (Option KeyPress)}
    (h : IsCut front base name) (hdenotes : Denotes (heldBy front) base result) :
    ofName? name = result := by
  cases hdenotes with
  | word hentry => exact h.ofName?_word hentry
  | char c => exact h.ofName?_char
  | function hbase hshort hvalue =>
    rw [h.ofName?_number hbase.ofWord?_eq_none hbase.ne_singleton,
      functionNumber?_of_isFunctionBase hbase, if_neg (Nat.not_lt.mpr hshort), if_pos hvalue]
    rfl
  | overlong hbase hlong =>
    rw [h.ofName?_number hbase.ofWord?_eq_none hbase.ne_singleton,
      functionNumber?_of_isFunctionBase hbase, if_pos hlong]
    rfl
  | unknown hword hfunction hchar =>
    rw [h.ofName?_number (ofWord?_eq_none_iff.mpr hword) hchar]
    by_cases hnumber : ∃ letter digits, base = letter :: digits ∧ IsFunctionBase letter digits
    · obtain ⟨letter, digits, rfl, hbase⟩ := hnumber
      obtain ⟨hshort, hvalue⟩ := hfunction letter digits rfl hbase
      rw [functionNumber?_of_isFunctionBase hbase, if_neg (Nat.not_lt.mpr hshort),
        if_neg (Nat.not_le.mpr hvalue)]
      rfl
    · rw [functionNumber?_of_not_isFunctionBase fun letter digits hbase hfunction =>
        hnumber ⟨letter, digits, hbase, hfunction⟩]
      rfl

end OfName

/-! ## The presses that have a name -/

/-- The key has a name. -/
def HasName : Key → Prop
  | .named _ => True
  | .function number => 0 ≤ number ∧ number ≤ 255
  | .char text => text.length = 1

/-- The marks of modifiers. -/
def marksOf (mods : Modifiers) : List Text :=
  (if mods.shift then ["S-".toList] else []) ++ (if mods.alt then ["A-".toList] else []) ++
    (if mods.ctrl then ["C-".toList] else [])

theorem heldBy_marksOf (mods : Modifiers) : heldBy (marksOf mods) = mods := by
  obtain ⟨shift, alt, ctrl⟩ := mods
  cases shift <;> cases alt <;> cases ctrl <;> rfl

theorem mem_marks_of_mem_marksOf {mods : Modifiers} :
    ∀ mark ∈ marksOf mods, mark ∈ marks := by
  obtain ⟨shift, alt, ctrl⟩ := mods
  cases shift <;> cases alt <;> cases ctrl <;> decide

theorem isCut_marksOf {base : Text} (h : ∀ mark ∈ marks, ¬ mark <+: base) (mods : Modifiers) :
    IsCut (marksOf mods) base ((marksOf mods).flatten ++ base) :=
  ⟨mem_marks_of_mem_marksOf, h, rfl⟩

/-- A base whose key is held with modifiers has a name with the marks of these modifiers. -/
theorem exists_name_of_denotes {base : Text} {mods : Modifiers} {press : KeyPress}
    (hunmarked : ∀ mark ∈ marks, ¬ mark <+: base) (h : Denotes mods base (.ok (some press))) :
    ∃ name, ofName? name = .ok (some press) := by
  rw [← heldBy_marksOf mods] at h
  exact ⟨_, (isCut_marksOf hunmarked mods).ofName?_eq_of_denotes h⟩

theorem word_unmarked {word : String} {key : Key} (h : (word, key) ∈ Key.words) :
    ∀ mark ∈ marks, ¬ mark <+: word.toList := by
  have hall : ∀ entry ∈ Key.words, ∀ mark ∈ marks, ¬ mark <+: entry.1.toList := by decide
  exact hall (word, key) h

theorem functionBase_unmarked (digits : Text) : ∀ mark ∈ marks, ¬ mark <+: 'f' :: digits := by
  rintro mark hmark ⟨rest, hrest⟩
  rcases mark_cases hmark with rfl | rfl | rfl <;> cases hrest

theorem char_unmarked (c : Char) : ∀ mark ∈ marks, ¬ mark <+: [c] := by
  intro mark hmark hprefix
  have hlength := hprefix.length_le
  rw [length_of_mem_marks hmark, List.length_singleton] at hlength
  omega

/-- The letter and the digits of a number up to 255 stand for its function key. -/
theorem denotes_digits {n : Nat} (h : n ≤ 255) (mods : Modifiers) :
    Denotes mods ('f' :: Double.digits n) (.ok (some ⟨.function n, mods⟩)) := by
  have hvalue : Nat.ofDigitChars 10 (Double.digits n) 0 = n := Nat.ofDigitChars_ten_toDigits
  have hshort : (Double.digits n).length ≤ 3 :=
    (Nat.length_toDigits_le_iff (by decide) (by decide)).mpr (Nat.lt_of_le_of_lt h (by decide))
  have hdenotes : Denotes mods ('f' :: Double.digits n)
      (.ok (some ⟨.function (Nat.ofDigitChars 10 (Double.digits n) 0), mods⟩)) :=
    .function ⟨Or.inl rfl, Double.isNumeral_digits n⟩ (Nat.le_trans hshort (by decide))
      (by rwa [hvalue])
  rwa [hvalue] at hdenotes

theorem exists_name_of_hasName {press : KeyPress} (h : HasName press.key) :
    ∃ name, ofName? name = .ok (some press) := by
  obtain ⟨key, mods⟩ := press
  cases key with
  | named key =>
    -- each of these keys has a word that holds no modifier of its own
    have hword : ∃ entry ∈ Key.words, entry.2 = .named key ∧ heldByWord entry.1 = {} := by
      cases key <;> decide
    obtain ⟨⟨word, _⟩, hentry, rfl, hheld⟩ := hword
    have hdenotes : Denotes mods word.toList
        (.ok (some ⟨.named key, mods.union (heldByWord word)⟩)) := .word hentry
    rw [hheld, Modifiers.union_nothing] at hdenotes
    exact exists_name_of_denotes (word_unmarked hentry) hdenotes
  | function number =>
    obtain ⟨low, high⟩ := h
    obtain ⟨n, rfl⟩ := Int.eq_ofNat_of_zero_le low
    have hn : n ≤ 255 := Int.ofNat_le.mp high
    exact exists_name_of_denotes (functionBase_unmarked _) (denotes_digits hn mods)
  | char text =>
    obtain ⟨c, rfl⟩ := List.length_eq_one_iff.mp h
    exact exists_name_of_denotes (char_unmarked c) (.char c)

theorem hasName_of_denotes {base : Text} {mods : Modifiers} {press : KeyPress}
    (h : Denotes mods base (.ok (some press))) : HasName press.key := by
  cases h with
  | @word word key hentry =>
    have hall : ∀ entry ∈ Key.words, HasName entry.2 := by simp [Key.words, HasName]
    exact hall (word, key) hentry
  | function hbase hshort hvalue => exact ⟨Int.natCast_nonneg _, Int.ofNat_le.mpr hvalue⟩
  | char c => rfl

/-- The grammar of key names: every name is cut in one way, looking it up gives what its base
stands for with the modifiers of its marks, the order and the repetition of marks make no
difference, and exactly the presses of keys that have a name are the values of names. -/
theorem ofName?_grammar :
    (∀ name, ∃! cut : List Text × Text, IsCut cut.1 cut.2 name) ∧
      (∀ name result, ofName? name = result ↔
        ∃ front base, IsCut front base name ∧ Denotes (heldBy front) base result) ∧
      (∀ (front other : List Text) base, (∀ mark ∈ front, mark ∈ marks) →
        (∀ mark, mark ∈ other ↔ mark ∈ front) →
        ofName? (other.flatten ++ base) = ofName? (front.flatten ++ base)) ∧
      ∀ press, (∃ name, ofName? name = .ok (some press)) ↔ HasName press.key := by
  refine ⟨fun name => ?_, fun name result => ⟨?_, ?_⟩, ?_, fun press => ⟨?_, ?_⟩⟩
  · obtain ⟨front, base, h⟩ := exists_isCut name
    refine ⟨(front, base), h, ?_⟩
    rintro ⟨other, rest⟩ h'
    obtain ⟨rfl, rfl⟩ := h.unique h'
    rfl
  · rintro rfl
    obtain ⟨front, base, h⟩ := exists_isCut name
    exact ⟨front, base, h, h.denotes⟩
  · rintro ⟨front, base, h, hdenotes⟩
    exact h.ofName?_eq_of_denotes hdenotes
  · intro front other base hfront hsame
    have hother : ∀ mark ∈ other, mark ∈ marks := fun mark h => hfront mark ((hsame mark).mp h)
    rw [ofName?, ofName?, cutMarks_flatten hfront, cutMarks_flatten hother, heldBy_congr hsame]
  · rintro ⟨name, hname⟩
    obtain ⟨front, base, h⟩ := exists_isCut name
    have hdenotes := h.denotes
    rw [hname] at hdenotes
    exact hasName_of_denotes hdenotes
  · exact exists_name_of_hasName

end KeyPress

end TermPilot
