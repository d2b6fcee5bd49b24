import Mathlib.Data.List.Basic
import TermPilot.Proofs.Shell.Tokens

/-!
# Scripts as a shell reads them

A shell runs the commands of a script as it reads them. Here are the words and operators that it has
read behind a part of a script, and the variables that it has then set if all commands so far did
nothing else.

A shell makes up no characters: what is literal in the words that it reads stands in the script. So
where the words say as much as the script does, no character of the script is lost, and then the
reader never comes across the marks that quote other marks.
-/

namespace TermPilot.Shell

namespace State

/-- The tokens that are complete behind a part of a script, and the reader there. -/
def scan (s : State) : Text → List Token × State
  | [] => ([], s)
  | c :: rest =>
    let later := scan (s.step c).2 rest
    ((s.step c).1 ++ later.1, later.2)

theorem scan_append (s : State) (t rest : Text) :
    s.scan (t ++ rest) =
      ((s.scan t).1 ++ ((s.scan t).2.scan rest).1, ((s.scan t).2.scan rest).2) := by
  induction t generalizing s with
  | nil => rfl
  | cons c t ih => rw [List.cons_append, scan, scan, ih, List.append_assoc]

theorem scan_cons_of_silent {s next : State} {c : Char} (h : s.step c = ([], next)) (rest : Text) :
    s.scan (c :: rest) = next.scan rest := by
  rw [scan, h]
  rfl

theorem scan_safe {t : Text} (h : ∀ c ∈ t, isSafe c = true) (pieces : List Piece) :
    scan ⟨.bare, some pieces⟩ t = ([], ⟨.bare, some (pieces ++ t.map .literal)⟩) := by
  induction t generalizing pieces with
  | nil => simp [scan]
  | cons c t ih =>
    obtain ⟨hc, ht⟩ := List.forall_mem_cons.mp h
    have hstep : State.step ⟨.bare, some pieces⟩ c =
        ([], ⟨.bare, some (pieces ++ [.literal c])⟩) := step_of_isSafe rfl hc
    rw [State.scan_cons_of_silent hstep, ih ht, List.append_assoc]
    rfl

end State

/-! ## Variables that commands set -/

/-- The text that a word stands for, if nothing in it is expanded. -/
def literal? : List Piece → Option Text
  | [] => some []
  | .literal c :: pieces => (literal? pieces).map (c :: ·)
  | .expanding _ :: _ => none

/-- Whether the name of a variable may begin with `c`. -/
def isNameStart (c : Char) : Bool := c.isAlpha || c = '_'

/-- Whether a text is the name of a variable. -/
def isName : Text → Bool
  | [] => false
  | c :: rest => isNameStart c && rest.all fun d => isNameStart d || d.isDigit

/-- The variable that a word sets, with its value. -/
def assignment? (word : List Piece) : Option (Text × Text) :=
  ((literal? word).bind (Text.cutAt '=')).filter fun set => isName set.1

/-- The command that sets a variable and exports it. -/
def keyword : Text := "export".toList

/-- The variables that commands set and export, one each; none if a command does anything else. -/
def assignments? : List Token → Option (List (Text × Text))
  | [] => some []
  | .operator '\n' :: rest => assignments? rest
  | .word command :: .word argument :: .operator '\n' :: rest =>
    if literal? command = some keyword then do
      let first ← assignment? argument
      let later ← assignments? rest
      return first :: later
    else none
  | _ => none

/-- A shell that runs the script sets and exports these variables, in this order, and does nothing
else before it comes to the last part, which it reads as a new command. -/
def Exports (script : Text) (exported : List (Text × Text)) (last : Text) : Prop :=
  ∃ first, script = first ++ last ∧ (State.scan {} first).2 = {} ∧
    assignments? (State.scan {} first).1 = some exported

/-! ## Characters that the reader keeps -/

/-- What a character of a word stands for, if it is not expanded. -/
def Piece.literals : Piece → Text
  | .literal c => [c]
  | .expanding _ => []

/-- The literal characters of a token. -/
def Token.literals : Token → Text
  | .word pieces => pieces.flatMap Piece.literals
  | .operator c => [c]

namespace State

/-- The literal characters of the word that has been begun. A backslash between double quotes is
kept until the next character shows whether it is one of them. -/
def literals (s : State) : Text :=
  (s.word.getD []).flatMap Piece.literals ++ if s.quoting = .doubleEscaped then ['\\'] else []

/-- How often a character is literal in what has been read. -/
def tally (x : Char) (read : List Token × State) : Nat :=
  (read.1.flatMap Token.literals).count x + read.2.literals.count x

theorem count_cons (x c : Char) (rest : Text) :
    (c :: rest).count x = [c].count x + rest.count x := by
  rw [← List.singleton_append, List.count_append]

theorem count_pair (x a b : Char) : [a, b].count x = [a].count x + [b].count x := count_cons x a [b]

theorem tally_step_le (x : Char) (s : State) (c : Char) :
    tally x (s.step c) ≤ s.literals.count x + [c].count x := by
  obtain ⟨quoting, word⟩ := s
  cases quoting with
  | bare =>
    simp only [step, stepBare]
    split_ifs <;> cases word <;>
      simp [tally, literals, add, ended, Token.literals, Piece.literals]
  | escaped =>
    simp only [step]
    split_ifs <;> simp [tally, literals, add, Piece.literals]
  | single =>
    simp only [step]
    split_ifs <;> simp [tally, literals, add, Piece.literals]
  | double =>
    simp only [step]
    split_ifs with hquote hbackslash
    · simp [tally, literals, add]
    · simp [tally, literals, hbackslash]
    · simp [tally, literals, add, Piece.literals]
    · simp [tally, literals, add, Piece.literals]
  | doubleEscaped =>
    simp only [step]
    split_ifs <;> simp [tally, literals, add, Piece.literals, count_pair] <;> omega
  | comment =>
    simp only [step]
    split_ifs <;> simp [tally, literals, Token.literals]

theorem tally_scan_cons (x : Char) (s : State) (c : Char) (rest : Text) :
    tally x (s.scan (c :: rest)) + (s.step c).2.literals.count x =
      tally x (s.step c) + tally x ((s.step c).2.scan rest) := by
  simp only [scan, tally, List.flatMap_append, List.count_append]
  omega

/-- The reader makes up no literal characters. -/
theorem tally_scan_le (x : Char) (s : State) (t : Text) :
    tally x (s.scan t) ≤ s.literals.count x + t.count x := by
  induction t generalizing s with
  | nil => simp [scan, tally]
  | cons c rest ih =>
    have hfirst := tally_step_le x s c
    have hrest := ih (s.step c).2
    have hsum := tally_scan_cons x s c rest
    have hcount := count_cons x c rest
    omega

/-- Every such character of the text is literal in what has been read. -/
def Keeps (x : Char) (s : State) (t : Text) : Prop :=
  tally x (s.scan t) = s.literals.count x + t.count x

theorem Keeps.cons {x : Char} {s : State} {c : Char} {rest : Text} (h : Keeps x s (c :: rest)) :
    tally x (s.step c) = s.literals.count x + [c].count x ∧ Keeps x (s.step c).2 rest := by
  have hfirst := tally_step_le x s c
  have hrest := tally_scan_le x (s.step c).2 rest
  have hsum := tally_scan_cons x s c rest
  have hcount := count_cons x c rest
  rw [Keeps] at h ⊢
  omega

theorem Keeps.append {x : Char} {s : State} {t rest : Text} (h : Keeps x s (t ++ rest)) :
    Keeps x s t ∧ Keeps x (s.scan t).2 rest := by
  have hfirst := tally_scan_le x s t
  have hrest := tally_scan_le x (s.scan t).2 rest
  have hsum : tally x (s.scan (t ++ rest)) + (s.scan t).2.literals.count x =
      tally x (s.scan t) + tally x ((s.scan t).2.scan rest) := by
    simp only [scan_append, tally, List.flatMap_append, List.count_append]
    omega
  rw [Keeps, List.count_append] at h
  rw [Keeps, Keeps]
  omega

/-! ### Marks that are lost -/

section Marks

variable {s : State} {c : Char} {rest : Text}

/-- A backslash or a single quote that is not quoted is lost. -/
theorem not_keeps_of_bare (hs : s.quoting = .bare) (hc : c = '\\' ∨ c = '\'') :
    ¬ Keeps c s (c :: rest) := by
  intro h
  have hstep := h.cons.1
  obtain ⟨quoting, word⟩ := s
  obtain rfl : quoting = .bare := hs
  rcases hc with rfl | rfl <;> cases word <;>
    simp [step, stepBare, blanks, operators, tally, literals, add] at hstep

/-- Between double quotes a mark that begins an expansion is lost. -/
theorem not_keeps_of_double (hs : s.quoting = .double) (hc : c ∈ doubleExpansions) :
    ¬ Keeps c s (c :: rest) := by
  intro h
  have hstep := h.cons.1
  obtain ⟨quoting, word⟩ := s
  obtain rfl : quoting = .double := hs
  simp only [doubleExpansions, List.mem_cons, List.not_mem_nil, or_false] at hc
  rcases hc with rfl | rfl <;> cases word <;>
    simp [step, doubleExpansions, tally, literals, add, Piece.literals] at hstep

/-- Between double quotes a backslash is lost in front of a character that it quotes. -/
theorem not_keeps_of_doubleEscaped (hs : s.quoting = .doubleEscaped)
    (hc : c = '\n' ∨ c ∈ doubleEscapes) : ¬ Keeps '\\' s (c :: rest) := by
  intro h
  have hstep := h.cons.1
  obtain ⟨quoting, word⟩ := s
  obtain rfl : quoting = .doubleEscaped := hs
  simp only [doubleEscapes, List.mem_cons, List.not_mem_nil, or_false] at hc
  rcases hc with rfl | rfl | rfl | rfl | rfl <;> cases word <;>
    simp [step, doubleEscapes, tally, literals, add, Piece.literals] at hstep

/-- The next character is not quoted, except by a backslash between double quotes. -/
def IsOpen (s : State) : Prop := s.quoting ≠ .escaped ∧ s.quoting ≠ .single

/-- Where no mark is lost the reader gets no literal double quote. -/
theorem IsOpen.step (hs : s.IsOpen) (hbackslash : Keeps '\\' s (c :: rest))
    (hsingle : Keeps '\'' s (c :: rest)) :
    (s.step c).2.IsOpen ∧ tally '"' (s.step c) ≤ s.literals.count '"' := by
  obtain ⟨quoting, word⟩ := s
  cases quoting with
  | bare =>
    have hc : c ≠ '\\' := by
      rintro rfl
      exact not_keeps_of_bare rfl (Or.inl rfl) hbackslash
    have hc' : c ≠ '\'' := by
      rintro rfl
      exact not_keeps_of_bare rfl (Or.inr rfl) hsingle
    have hoperator : c ∈ operators → c ≠ '"' := by
      rintro hmem rfl
      revert hmem
      decide
    cases word <;> simp only [State.step, stepBare, if_neg hc, if_neg hc'] <;> split_ifs <;>
      simp_all [IsOpen, tally, literals, add, ended, Token.literals, Piece.literals]
  | escaped => exact absurd rfl hs.1
  | single => exact absurd rfl hs.2
  | double =>
    cases word <;> simp only [State.step] <;> split_ifs <;>
      simp_all [IsOpen, tally, literals, add, Piece.literals]
  | doubleEscaped =>
    have hc := not_or.mp fun hc => not_keeps_of_doubleEscaped rfl hc hbackslash
    have hquote : c ≠ '"' := by
      rintro rfl
      exact hc.2 (by decide)
    cases word <;> simp only [State.step, if_neg hc.1, if_neg hc.2] <;>
      simp [IsOpen, tally, literals, add, Piece.literals, hquote]
  | comment =>
    cases word <;> simp only [State.step] <;> split_ifs <;>
      simp_all [IsOpen, tally, literals, Token.literals]

end Marks

/-- Where no mark is lost the reader gets no literal double quote. -/
theorem IsOpen.scan {s : State} (hs : s.IsOpen) {t : Text} (hbackslash : Keeps '\\' s t)
    (hsingle : Keeps '\'' s t) : tally '"' (s.scan t) ≤ s.literals.count '"' := by
  induction t generalizing s with
  | nil => simp [State.scan, tally]
  | cons c rest ih =>
    obtain ⟨hopen, hfirst⟩ := hs.step hbackslash hsingle
    have hrest := ih hopen hbackslash.cons.2 hsingle.cons.2
    have hsum := tally_scan_cons '"' s c rest
    omega

end State

/-! ## Texts between double quotes -/

/-- Between double quotes every character of the text stands for itself: there is no double quote
and no mark of an expansion, and behind a backslash there is a character that it does not quote. -/
def Unaltered : Text → Prop
  | [] => True
  | c :: rest => c ∉ ['$', '`', '"'] ∧
      (c = '\\' → ∃ d ∈ rest.head?, d ≠ '\\' ∧ d ≠ '\n') ∧ Unaltered rest

section Unaltered

open State

/-- The reader between double quotes. -/
def inQuotes (pieces : List Piece) : State := ⟨.double, some pieces⟩

theorem step_inQuotes {c : Char} (h : c ∉ ['$', '`', '"']) (hc : c ≠ '\\') (pieces : List Piece) :
    (inQuotes pieces).step c = ([], inQuotes (pieces ++ [.literal c])) := by
  simp only [List.mem_cons, List.not_mem_nil, or_false, not_or] at h
  simp [inQuotes, State.step, doubleExpansions, h, hc, State.add]

theorem step_inQuotes_backslash (pieces : List Piece) :
    (inQuotes pieces).step '\\' = ([], ⟨.doubleEscaped, some pieces⟩) := rfl

theorem step_doubleEscaped {c : Char} (h : ¬ (c = '\n' ∨ c ∈ doubleEscapes)) (pieces : List Piece) :
    State.step ⟨.doubleEscaped, some pieces⟩ c =
      ([], inQuotes (pieces ++ [.literal '\\', .literal c])) := by
  obtain ⟨hfeed, hescape⟩ := not_or.mp h
  simp [inQuotes, State.step, hfeed, hescape, State.add]

theorem scan_unaltered {t : Text} (h : Unaltered t) (pieces : List Piece) :
    (inQuotes pieces).scan t = ([], inQuotes (pieces ++ t.map .literal)) := by
  induction t using List.twoStepInduction generalizing pieces with
  | nil => simp [State.scan]
  | singleton c =>
    obtain ⟨hc, hbackslash, -⟩ := h
    have hne : c ≠ '\\' := by
      rintro rfl
      obtain ⟨d, hd, -⟩ := hbackslash rfl
      cases hd
    rw [scan_cons_of_silent (step_inQuotes hc hne pieces)]
    rfl
  | cons_cons c d rest ih ih' =>
    obtain ⟨hc, hbackslash, hd, hbackslash', hrest⟩ := h
    by_cases hcase : c = '\\'
    · subst hcase
      obtain ⟨d', hd', hslash, hfeed⟩ := hbackslash rfl
      obtain rfl : d = d' := Option.some.inj hd'
      have hescape : ¬ (d = '\n' ∨ d ∈ doubleEscapes) := by
        simp only [List.mem_cons, List.not_mem_nil, or_false, not_or] at hd
        simp [doubleEscapes, hfeed, hslash, hd]
      rw [scan_cons_of_silent (step_inQuotes_backslash pieces),
        scan_cons_of_silent (step_doubleEscaped hescape pieces), ih hrest, List.append_assoc]
      rfl
    · rw [scan_cons_of_silent (step_inQuotes hc hcase pieces), ih' d ⟨hd, hbackslash', hrest⟩,
        List.append_assoc]
      rfl

/-- No mark of the text is lost between double quotes. -/
def KeepsMarks (s : State) (t : Text) : Prop := ∀ x ∈ ['\\', '$', '`'], Keeps x s t

theorem KeepsMarks.of_step {s next : State} {c : Char} {t : Text} (h : KeepsMarks s (c :: t))
    (hstep : s.step c = ([], next)) : KeepsMarks next t := by
  intro x hx
  have hrest := (h x hx).cons.2
  rwa [hstep] at hrest

theorem KeepsMarks.not_mem {pieces : List Piece} {c : Char} {t : Text}
    (h : KeepsMarks (inQuotes pieces) (c :: t)) (hquote : '"' ≠ c) : c ∉ ['$', '`', '"'] := by
  intro hmem
  simp only [List.mem_cons, List.not_mem_nil, or_false] at hmem
  rcases hmem with rfl | rfl | rfl
  · exact not_keeps_of_double rfl (by decide) (h _ (by decide))
  · exact not_keeps_of_double rfl (by decide) (h _ (by decide))
  · exact hquote rfl

theorem KeepsMarks.not_quoted {pieces : List Piece} {c : Char} {t : Text}
    (h : KeepsMarks (inQuotes pieces) ('\\' :: c :: t)) : ¬ (c = '\n' ∨ c ∈ doubleEscapes) :=
  fun hc => not_keeps_of_doubleEscaped rfl hc
    (h.of_step (step_inQuotes_backslash pieces) '\\' List.mem_cons_self)

/-- A text in front of a closing double quote is unaltered if no mark is lost. -/
theorem unaltered_of_keepsMarks {t rest : Text} {pieces : List Piece} (hquote : '"' ∉ t)
    (h : KeepsMarks (inQuotes pieces) (t ++ '"' :: rest)) : Unaltered t := by
  induction t using List.twoStepInduction generalizing pieces with
  | nil => trivial
  | singleton c =>
    have hne : c ≠ '\\' := by
      rintro rfl
      exact h.not_quoted (Or.inr (by decide))
    exact ⟨h.not_mem fun hc => hquote (hc ▸ List.mem_cons_self), fun hc => absurd hc hne, trivial⟩
  | cons_cons c d t ih ih' =>
    obtain ⟨hc, hquote'⟩ := not_or.mp (mt List.mem_cons.mpr hquote)
    obtain ⟨hd, hquote''⟩ := not_or.mp (mt List.mem_cons.mpr hquote')
    by_cases hcase : c = '\\'
    · subst hcase
      have hescape := h.not_quoted
      have hrest := (h.of_step (step_inQuotes_backslash pieces)).of_step
        (step_doubleEscaped hescape pieces)
      simp only [doubleEscapes, List.mem_cons, List.not_mem_nil, or_false, not_or] at hescape
      obtain ⟨hfeed, hdollar, htick, -, hslash⟩ := hescape
      refine ⟨h.not_mem hc, fun _ => ⟨d, rfl, hslash, hfeed⟩, ?_, fun h => absurd h hslash,
        ih hquote'' hrest⟩
      simp [hdollar, htick, Ne.symm hd]
    · exact ⟨h.not_mem hc, fun h => absurd h hcase,
        ih' d hquote' (h.of_step (step_inQuotes (h.not_mem hc) hcase pieces))⟩

end Unaltered

/-! ## Commands that set variables -/

section Assignments

variable {word : List Piece} {tokens : List Token} {exported : List (Text × Text)} {x : Char}

theorem literals_of_literal? {t : Text} (h : literal? word = some t) :
    word.flatMap Piece.literals = t := by
  induction word generalizing t with
  | nil => exact Option.some.inj h
  | cons piece word ih =>
    cases piece with
    | expanding c => cases h
    | literal c =>
      obtain ⟨rest, hrest, rfl⟩ := Option.map_eq_some_iff.mp h
      rw [List.flatMap_cons, ih hrest]
      rfl

theorem literal?_map (t : Text) : literal? (t.map .literal) = some t := by
  induction t with
  | nil => rfl
  | cons c t ih => rw [List.map_cons, literal?, ih, Option.map_some]

theorem of_mem_isName {name : Text} {c : Char} (h : isName name = true) (hmem : c ∈ name) :
    isNameStart c = true ∨ c.isDigit = true := by
  cases name with
  | nil => cases hmem
  | cons first rest =>
    rw [isName, Bool.and_eq_true] at h
    rcases List.mem_cons.mp hmem with rfl | hmem
    · exact Or.inl h.1
    · exact (Bool.or_eq_true ..).to_iff.mp (List.all_eq_true.mp h.2 c hmem)

theorem not_mem_of_isName {name : Text} {c : Char} (h : isName name = true)
    (hstart : isNameStart c = false) (hdigit : c.isDigit = false) : c ∉ name := by
  intro hmem
  have hc := of_mem_isName h hmem
  simp [hstart, hdigit] at hc

theorem isSafe_of_isName {name : Text} (h : isName name = true) :
    ∀ c ∈ name ++ ['='], isSafe c = true := by
  intro c hc
  rcases List.mem_append.mp hc with hmem | hequals
  · rcases of_mem_isName h hmem with hstart | hdigit
    · rw [isNameStart, Bool.or_eq_true, decide_eq_true_eq] at hstart
      rcases hstart with hletter | rfl
      · rw [isSafe, Char.isAlphanum, hletter, Bool.true_or, Bool.true_or]
      · decide
    · rw [isSafe, Char.isAlphanum, hdigit, Bool.or_true, Bool.true_or]
  · rw [List.mem_singleton.mp hequals]
    decide

theorem assignment?_eq_some {name value : Text} (h : assignment? word = some (name, value)) :
    isName name = true ∧ word.flatMap Piece.literals = name ++ '=' :: value := by
  obtain ⟨hbind, hname⟩ := Option.filter_eq_some_iff.mp h
  obtain ⟨t, ht, hcut⟩ := Option.bind_eq_some_iff.mp hbind
  exact ⟨hname, (literals_of_literal? ht).trans (Text.cutAt_eq_some_iff.mp hcut).1⟩

theorem assignment?_map {name : Text} (h : isName name = true) (value : Text) :
    assignment? ((name ++ '=' :: value).map .literal) = some (name, value) := by
  have hequals : '=' ∉ name := not_mem_of_isName h (by decide) (by decide)
  rw [assignment?, literal?_map, Option.bind_some, Text.cutAt_append hequals, Option.filter_some,
    if_pos h]

/-- What a command that sets a variable says, apart from blanks and quotes. -/
def saying (set : Text × Text) : Text := keyword ++ (set.1 ++ '=' :: set.2) ++ ['\n']

/-- Commands that set variables have proper names for them, and the names and values are literal. -/
theorem of_assignments? (h : assignments? tokens = some exported) :
    (∀ set ∈ exported, isName set.1 = true) ∧
      (exported.flatMap saying).count x ≤ (tokens.flatMap Token.literals).count x := by
  fun_induction assignments? tokens generalizing exported with
  | case1 =>
    obtain rfl := Option.some.inj h
    exact ⟨by simp, Nat.zero_le _⟩
  | case2 rest ih =>
    obtain ⟨hnames, hcount⟩ := ih h
    rw [List.flatMap_cons, List.count_append]
    exact ⟨hnames, Nat.le_add_left_of_le hcount⟩
  | case3 command argument rest hcommand ih =>
    obtain ⟨first, hfirst, h⟩ := Option.bind_eq_some_iff.mp h
    obtain ⟨later, hlater, h⟩ := Option.bind_eq_some_iff.mp h
    obtain rfl := Option.some.inj h
    obtain ⟨hnames, hcount⟩ := ih hlater
    obtain ⟨hname, hliterals⟩ := assignment?_eq_some hfirst
    refine ⟨List.forall_mem_cons.mpr ⟨hname, hnames⟩, ?_⟩
    have hword := literals_of_literal? hcommand
    have htokens : (Token.word command :: .word argument :: .operator '\n' :: rest).flatMap
        Token.literals = saying first ++ rest.flatMap Token.literals := by
      simp [Token.literals, saying, hword, hliterals]
    rw [htokens, List.flatMap_cons, List.count_append, List.count_append]
    exact Nat.add_le_add_left hcount _
  | case4 => cases h
  | case5 => cases h

end Assignments

end TermPilot.Shell
