import TermPilot.Dump.Wrapped
import TermPilot.Proofs.Text.Parts

/-!
# Commands as a shell reads them

A POSIX shell reads a command one character after the other. Blanks end a word, and an operator
such as the semicolon ends a command, unless they are quoted. A quoted word is read as the
characters that it was made of, and to none of them the shell gives a meaning. So a script that
begins with a command of quoted words does first what these words say and nothing else.
-/

namespace TermPilot.Shell

/-! ## The reader -/

/-- A character of a word. -/
inductive Piece where
  /-- The character stands for itself. -/
  | literal (c : Char)
  /-- An expansion begins here, such as the value of a variable. -/
  | expanding (c : Char)
deriving Repr, DecidableEq

/-- A token of a command. -/
inductive Token where
  | word (pieces : List Piece)
  | operator (c : Char)
deriving Repr, DecidableEq

/-- The word that stands for a text. -/
def Token.ofText (t : Text) : Token := .word (t.map .literal)

/-- How the next character is quoted. -/
inductive Quoting where
  | bare
  /-- A backslash stands in front of it. -/
  | escaped
  /-- It stands between single quotes. -/
  | single
  /-- It stands between double quotes. -/
  | double
  /-- It stands between double quotes, behind a backslash. -/
  | doubleEscaped
  /-- It belongs to a comment. -/
  | comment
deriving Repr, DecidableEq

/-- The reader between two characters. -/
structure State where
  quoting : Quoting := .bare
  /-- The word that has been begun, if one has. -/
  word : Option (List Piece) := none
deriving Repr, DecidableEq

/-- The characters that end a word. -/
def blanks : Text := [' ', '\t']

/-- The characters that are operators. -/
def operators : Text := [';', '&', '|', '<', '>', '(', ')', '\n']

/-- The characters that begin an expansion where they are not quoted. -/
def expansions : Text := ['$', '`', '*', '?', '[', '~', '{']

/-- The characters that begin an expansion between double quotes. -/
def doubleExpansions : Text := ['$', '`']

/-- The characters that a backslash takes their meaning from between double quotes. -/
def doubleEscapes : Text := ['$', '`', '"', '\\']

namespace State

/-- The state with more of the word. -/
def add (s : State) (quoting : Quoting) (pieces : List Piece) : State :=
  ⟨quoting, some (s.word.getD [] ++ pieces)⟩

/-- The word that ends here, if one has been begun. -/
def ended (s : State) : List Token := s.word.toList.map .word

/-- Reads a character that is not quoted. -/
def stepBare (s : State) (c : Char) : List Token × State :=
  if c ∈ blanks then (s.ended, {})
  else if c ∈ operators then (s.ended ++ [.operator c], {})
  else if c = '\'' then ([], s.add .single [])
  else if c = '"' then ([], s.add .double [])
  else if c = '\\' then ([], { s with quoting := .escaped })
  else if c = '#' ∧ s.word = none then ([], { s with quoting := .comment })
  else if c ∈ expansions then ([], s.add .bare [.expanding c])
  else ([], s.add .bare [.literal c])

/-- Reads a character. An escaped line feed is left out. -/
def step (s : State) (c : Char) : List Token × State :=
  match s.quoting with
  | .bare => s.stepBare c
  | .escaped => if c = '\n' then ([], { s with quoting := .bare }) else ([], s.add .bare [.literal c])
  | .single => if c = '\'' then ([], s.add .bare []) else ([], s.add .single [.literal c])
  | .double =>
    if c = '"' then ([], s.add .bare [])
    else if c = '\\' then ([], { s with quoting := .doubleEscaped })
    else if c ∈ doubleExpansions then ([], s.add .double [.expanding c])
    else ([], s.add .double [.literal c])
  | .doubleEscaped =>
    if c = '\n' then ([], { s with quoting := .double })
    else if c ∈ doubleEscapes then ([], s.add .double [.literal c])
    else ([], s.add .double [.literal '\\', .literal c])
  | .comment => if c = '\n' then ([.operator c], {}) else ([], s)

/-- The tokens of what is left of a command; none if a quote is not closed or nothing follows a
backslash. -/
def tokens (s : State) : Text → Option (List Token)
  | [] => match s.quoting with
    | .bare | .comment => some s.ended
    | _ => none
  | c :: rest => (tokens (s.step c).2 rest).map ((s.step c).1 ++ ·)

end State

/-- The tokens of a command. -/
def tokens (command : Text) : Option (List Token) := State.tokens {} command

/-! ## Quoted words -/

section Quoted

variable {s next : State} {c : Char}

theorem tokens_cons_of_silent (h : s.step c = ([], next)) (rest : Text) :
    s.tokens (c :: rest) = next.tokens rest := by
  rw [State.tokens, h]
  exact Option.map_id'

theorem add_add (s : State) (quoting next : Quoting) (pieces later : List Piece) :
    (s.add quoting pieces).add next later = s.add next (pieces ++ later) := by
  rw [State.add, State.add, State.add, Option.getD_some, List.append_assoc]

theorem add_nil (s : State) (quoting next : Quoting) (pieces : List Piece) :
    (s.add quoting pieces).add next [] = s.add next pieces := by
  rw [add_add, List.append_nil]

theorem not_mem_of_isSafe {special : Text} (hspecial : special.all (!isSafe ·) = true)
    (h : isSafe c = true) : c ∉ special := by
  intro hmem
  have hunsafe := List.all_eq_true.mp hspecial c hmem
  rw [h] at hunsafe
  cases hunsafe

/-- A safe character stands for itself without quotes. -/
theorem step_of_isSafe (hbare : s.quoting = .bare) (h : isSafe c = true) :
    s.step c = ([], s.add .bare [.literal c]) := by
  have hne (special : Char) (hspecial : isSafe special = false) : c ≠ special := by
    rintro rfl
    rw [h] at hspecial
    cases hspecial
  rw [State.step, hbare]
  dsimp only
  rw [State.stepBare, if_neg (not_mem_of_isSafe (by decide) h),
    if_neg (not_mem_of_isSafe (by decide) h), if_neg (hne _ (by decide)),
    if_neg (hne _ (by decide)), if_neg (hne _ (by decide)),
    if_neg fun hcomment => hne '#' (by decide) hcomment.1,
    if_neg (not_mem_of_isSafe (by decide) h)]

theorem tokens_safe {t : Text} (h : ∀ c ∈ t, isSafe c = true) (s : State) (pieces : List Piece)
    (rest : Text) :
    (s.add .bare pieces).tokens (t ++ rest) =
      (s.add .bare (pieces ++ t.map .literal)).tokens rest := by
  induction t generalizing pieces with
  | nil => rw [List.nil_append, List.map_nil, List.append_nil]
  | cons c t ih =>
    obtain ⟨hc, ht⟩ := List.forall_mem_cons.mp h
    have hstep : (s.add .bare pieces).step c = ([], s.add .bare (pieces ++ [.literal c])) := by
      rw [← add_add]
      exact step_of_isSafe rfl hc
    rw [List.cons_append, tokens_cons_of_silent hstep, ih ht, List.append_assoc]
    rfl

/-- Inside single quotes a single quote is read back from what is written for it: the quotes are
closed, double quotes give the single one, and the quotes are opened again. -/
theorem tokens_quoteInside (s : State) (pieces : List Piece) (rest : Text) :
    (s.add .single pieces).tokens (quoteInside ++ rest) =
      (s.add .single (pieces ++ [.literal '\''])).tokens rest := by
  have hclose : (s.add .single pieces).step '\'' = ([], s.add .bare pieces) :=
    congrArg (Prod.mk []) (add_nil s .single .bare pieces)
  have hdouble : (s.add .bare pieces).step '"' = ([], s.add .double pieces) :=
    congrArg (Prod.mk []) (add_nil s .bare .double pieces)
  have hliteral : (s.add .double pieces).step '\'' =
      ([], s.add .double (pieces ++ [.literal '\''])) :=
    congrArg (Prod.mk []) (add_add s .double .double pieces [.literal '\''])
  have hbare : (s.add .double (pieces ++ [.literal '\''])).step '"' =
      ([], s.add .bare (pieces ++ [.literal '\''])) :=
    congrArg (Prod.mk []) (add_nil s .double .bare _)
  have hopen : (s.add .bare (pieces ++ [.literal '\''])).step '\'' =
      ([], s.add .single (pieces ++ [.literal '\''])) :=
    congrArg (Prod.mk []) (add_nil s .bare .single _)
  have hinside : quoteInside = ['\'', '"', '\'', '"', '\''] := by decide
  rw [hinside, List.cons_append, tokens_cons_of_silent hclose, List.cons_append,
    tokens_cons_of_silent hdouble, List.cons_append, tokens_cons_of_silent hliteral,
    List.cons_append, tokens_cons_of_silent hbare, List.cons_append, tokens_cons_of_silent hopen,
    List.nil_append]

/-- Between single quotes every character is read back. -/
theorem tokens_single (t : Text) (s : State) (pieces : List Piece) (rest : Text) :
    (s.add .single pieces).tokens
        (t.flatMap (fun c => if c = '\'' then quoteInside else [c]) ++ '\'' :: rest) =
      (s.add .bare (pieces ++ t.map .literal)).tokens rest := by
  induction t generalizing pieces with
  | nil =>
    have hclose : (s.add .single pieces).step '\'' = ([], s.add .bare pieces) :=
      congrArg (Prod.mk []) (add_nil s .single .bare pieces)
    rw [List.map_nil, List.append_nil]
    exact tokens_cons_of_silent hclose rest
  | cons c t ih =>
    rw [List.flatMap_cons, List.append_assoc, List.map_cons, List.append_cons pieces]
    by_cases hc : c = '\''
    · rw [if_pos hc, tokens_quoteInside, ih, hc]
    · have hstep : (s.add .single pieces).step c = ([], s.add .single (pieces ++ [.literal c])) := by
        rw [← add_add]
        exact if_neg hc
      rw [if_neg hc, List.singleton_append, tokens_cons_of_silent hstep, ih]

theorem tokens_quote (word rest : Text) :
    State.tokens {} (quote word ++ rest) = (State.add {} .bare (word.map .literal)).tokens rest := by
  rw [quote]
  split
  -- A word of safe characters is written as it is, and is not empty.
  · next hplain =>
    obtain ⟨hne, hsafe⟩ := Bool.and_eq_true_iff.mp hplain
    cases word with
    | nil => cases hne
    | cons c word =>
      obtain ⟨hc, hword⟩ := List.forall_mem_cons.mp (List.all_eq_true.mp hsafe)
      rw [List.cons_append, tokens_cons_of_silent (step_of_isSafe rfl hc), tokens_safe hword]
      rfl
  · have hopen : State.step {} '\'' = ([], State.add {} .single []) := rfl
    rw [List.cons_append, List.cons_append, List.append_assoc, tokens_cons_of_silent hopen,
      List.singleton_append, tokens_single, List.nil_append]

end Quoted

/-! ## Commands -/

section Commands

theorem tokens_semicolon (s : State) (pieces : List Piece) (rest : Text) :
    (s.add .bare pieces).tokens (';' :: rest) =
      (State.tokens {} rest).map (.word (s.word.getD [] ++ pieces) :: .operator ';' :: ·) := rfl

theorem tokens_blank (s : State) (pieces : List Piece) (rest : Text) :
    (s.add .bare pieces).tokens (' ' :: rest) =
      (State.tokens {} rest).map (.word (s.word.getD [] ++ pieces) :: ·) := rfl

/-- The words of a command are read back, up to the semicolon behind them. -/
theorem tokens_command (words : List Text) (rest : Text) :
    State.tokens {} (command words ++ ';' :: rest) =
      (State.tokens {} rest).map ((words.map Token.ofText ++ [.operator ';']) ++ ·) := by
  induction words with
  | nil => rfl
  | cons word words ih =>
    cases words with
    | nil =>
      rw [command, List.map_singleton, Text.join, List.intercalate_singleton, tokens_quote,
        tokens_semicolon]
      rfl
    | cons second words =>
      rw [command] at ih
      rw [command, List.map_cons, List.map_cons, Text.join_cons_cons, List.append_assoc,
        List.append_assoc, tokens_quote, List.singleton_append, tokens_blank, ← List.map_cons, ih,
        Option.map_map]
      rfl

/-- The tokens that print and return the status of a command. -/
def reportTokens : List Token :=
  let text := fun (t : String) => t.toList.map Piece.literal
  let status := .expanding '$' :: text "EXIT_CODE"
  [.word (text "EXIT_CODE=" ++ [.expanding '$', .expanding '?']), .operator ';',
    .word (text "echo"), .word (text Dump.marker ++ status), .operator ';',
    .word (text "exit"), .word status]

/-- A shell reads from the script around a command the words of the command as they are, whatever
they hold, and behind them the commands that report the status. -/
theorem tokens_script (words : List Text) :
    tokens (Dump.script words) =
      some (words.map Token.ofText ++ .operator ';' :: reportTokens) := by
  let report : Text := s!" EXIT_CODE=$?; echo \"{Dump.marker}$EXIT_CODE\"; exit $EXIT_CODE".toList
  have hscript : Dump.script words = command words ++ ';' :: report := rfl
  have hreport : State.tokens {} report = some reportTokens := by decide +kernel
  rw [tokens, hscript, tokens_command, hreport, Option.map_some, List.append_assoc]
  rfl

end Commands

end TermPilot.Shell
