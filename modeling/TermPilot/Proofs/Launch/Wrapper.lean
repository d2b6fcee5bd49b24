import TermPilot.Launch.Scripts
import TermPilot.Proofs.Shell.Script
import TermPilot.Settings.Environment

/-!
# The script that sets variables

The script writes the value of a variable between double quotes, as it is. A shell gives the
variable this value exactly if no character of it has a meaning there. Otherwise it sets another
value, or runs a command, or takes what follows for a part of the value.
-/

namespace TermPilot

/-! ## Environments with variables set -/

namespace Environment

/-- The environment with variables set one after the other. -/
def exporting (e : Environment) (exported : List (Text × Text)) : Environment :=
  exported.foldl (fun e set => e.put (Text.string set.1) set.2) e

theorem get?_put (e : Environment) (name : String) (value : Text) (other : String) :
    (e.put name value).get? other = if other = name then some value else e.get? other := by
  induction e with
  | nil =>
    rw [put, get?, List.find?_singleton]
    by_cases h : other = name
    · simp [h]
    · simp [h, Ne.symm h, String.toList_inj, get?]
  | cons first rest ih =>
    obtain ⟨key, old⟩ := first
    rw [get?] at ih
    rw [put]
    split
    · next hkey =>
      by_cases h : other = name
      · simp [get?, h, hkey]
      · simp [get?, h, hkey, Ne.symm h, String.toList_inj]
    · next hkey =>
      by_cases hother : key = other.toList
      · have h : other ≠ name := by
          rintro rfl
          exact hkey hother
        simp [get?, hother, h]
      · simpa [get?, hother] using ih

/-- The last value that is given to a variable counts. -/
theorem get?_exporting (e : Environment) (exported : List (Text × Text)) (name : String) :
    (e.exporting exported).get? name =
      ((exported.reverse.find? fun set => set.1 = name.toList).map Prod.snd).or (e.get? name) := by
  induction exported generalizing e with
  | nil => rfl
  | cons first rest ih =>
    have hname : name = Text.string first.1 ↔ first.1 = name.toList := by
      rw [Text.string]
      constructor
      · rintro rfl
        exact String.toList_ofList.symm
      · intro h
        rw [h, String.ofList_toList]
    have hstep : e.exporting (first :: rest) =
        (e.put (Text.string first.1) first.2).exporting rest := rfl
    rw [hstep, ih, get?_put, List.reverse_cons, List.find?_append]
    cases rest.reverse.find? fun set => set.1 = name.toList with
    | some last => rfl
    | none =>
      by_cases h : first.1 = name.toList
      · rw [if_pos (hname.mpr h)]
        simp [h]
      · rw [if_neg (mt hname.mp h)]
        simp [h]

end Environment

namespace Launch

open Shell
open Shell.State (scan Keeps tally)

/-- The lines of the script that set variables. -/
def exportLines (exported : List (Text × Text)) : Text :=
  exported.flatMap fun set => exportLine set.1 set.2

/-- The line by which the script becomes the command. -/
def becomeLine (command : Text) : Text := "exec ".toList ++ command ++ " \"$@\"\n".toList

section Lines

variable {name value : Text} {exported : List (Text × Text)}

/-- What stands in front of a value. -/
def lineHead (name : Text) : Text := "export ".toList ++ name ++ "=\"".toList

theorem exportLine_eq (name value : Text) :
    exportLine name value = lineHead name ++ (value ++ ['"', '\n']) := by
  have hend : "\"\n".toList = ['"', '\n'] := by decide
  calc exportLine name value
    _ = lineHead name ++ value ++ ['"', '\n'] := congrArg (lineHead name ++ value ++ ·) hend
    _ = lineHead name ++ (value ++ ['"', '\n']) := List.append_assoc ..

theorem lineHead_eq (name : Text) :
    lineHead name = keyword ++ [' '] ++ ((name ++ ['=']) ++ ['"']) := by
  have hstart : "export ".toList = keyword ++ [' '] := by decide
  have hend : "=\"".toList = ['=', '"'] := by decide
  calc lineHead name
    _ = "export ".toList ++ name ++ ['=', '"'] := congrArg ("export ".toList ++ name ++ ·) hend
    _ = keyword ++ [' '] ++ name ++ ['=', '"'] := congrArg (· ++ name ++ _) hstart
    _ = keyword ++ [' '] ++ (name ++ ['=', '"']) := List.append_assoc ..
    _ = keyword ++ [' '] ++ ((name ++ ['=']) ++ ['"']) :=
        congrArg (_ ++ ·) (List.append_assoc name ['='] ['"']).symm

/-- The word by which a variable is set. -/
def settingWord (name value : Text) : List Piece := (name ++ '=' :: value).map .literal

theorem scan_lineHead (h : isName name = true) :
    scan {} (lineHead name) =
      ([.word (keyword.map .literal)], inQuotes (settingWord name [])) := by
  have hhead : scan {} (keyword ++ [' ']) =
    ([.word (keyword.map .literal)], {}) := by decide
  have hsafe := isSafe_of_isName h
  have hname : scan {} (name ++ ['=']) = ([], ⟨.bare, some (settingWord name [])⟩) := by
    cases name with
    | nil => cases h
    | cons c rest =>
      obtain ⟨hc, hrest⟩ := List.forall_mem_cons.mp hsafe
      rw [List.cons_append, State.scan_cons_of_silent (step_of_isSafe rfl hc)]
      exact State.scan_safe hrest _
  have hquote : scan ⟨.bare, some (settingWord name [])⟩ ['"'] =
      ([], inQuotes (settingWord name [])) := by
    simp [scan, State.step, State.stepBare, blanks, operators, State.add, inQuotes]
  rw [lineHead_eq, State.scan_append, hhead, State.scan_append, hname, hquote]
  rfl

theorem scan_exportLine (hname : isName name = true) (hvalue : Unaltered value) :
    scan {} (exportLine name value) =
      ([.word (keyword.map .literal), .word (settingWord name value), .operator '\n'],
        {}) := by
  have htail (pieces : List Piece) :
      scan (inQuotes pieces) ['"', '\n'] = ([.word pieces, .operator '\n'], {}) := by
    simp [scan, State.step, State.stepBare, blanks, operators, State.add, inQuotes, State.ended]
  have hword : settingWord name [] ++ value.map .literal = settingWord name value := by
    simp [settingWord]
  rw [exportLine_eq, State.scan_append, scan_lineHead hname, State.scan_append,
    scan_unaltered hvalue, htail, hword]
  rfl

theorem scan_exportLines (h : ∀ set ∈ exported, isName set.1 = true ∧ Unaltered set.2) :
    ∃ tokens, scan {} (exportLines exported) = (tokens, {}) ∧
      assignments? tokens = some exported := by
  induction exported with
  | nil => exact ⟨[], rfl, rfl⟩
  | cons first rest ih =>
    obtain ⟨⟨hname, hvalue⟩, hrest⟩ := List.forall_mem_cons.mp h
    obtain ⟨tokens, hscan, htokens⟩ := ih hrest
    refine ⟨.word (keyword.map .literal) :: .word (settingWord first.1 first.2) ::
      .operator '\n' :: tokens, ?_, ?_⟩
    · rw [exportLines] at hscan
      rw [exportLines, List.flatMap_cons, State.scan_append, scan_exportLine hname hvalue, hscan]
      rfl
    · rw [assignments?, if_pos (literal?_map _), settingWord, assignment?_map hname, htokens]
      rfl

theorem count_exportLine (x : Char) (name value : Text) :
    (exportLine name value).count x =
      (saying (name, value)).count x + [' ', '"', '"'].count x := by
  rw [exportLine_eq, lineHead_eq, saying]
  simp only [List.count_append, List.count_cons, List.count_nil]
  omega

/-- Apart from blanks and quotes the lines are what the commands say. -/
theorem count_exportLines {x : Char} (hx : x ∉ [' ', '"', '"']) (exported : List (Text × Text)) :
    (exportLines exported).count x = (exported.flatMap saying).count x := by
  rw [exportLines, List.count_flatMap, List.count_flatMap]
  refine congrArg List.sum (List.map_congr_left fun set _ => ?_)
  rw [Function.comp_apply, count_exportLine, List.count_eq_zero_of_not_mem hx]
  rfl

theorem unaltered_of_keepsMarks_exportLines (hnames : ∀ set ∈ exported, isName set.1 = true)
    (hquotes : ∀ set ∈ exported, '"' ∉ set.2) (h : KeepsMarks {} (exportLines exported)) :
    ∀ set ∈ exported, Unaltered set.2 := by
  induction exported with
  | nil => simp
  | cons first rest ih =>
    obtain ⟨hname, hnames⟩ := List.forall_mem_cons.mp hnames
    obtain ⟨hquote, hquotes⟩ := List.forall_mem_cons.mp hquotes
    have hlines : exportLines (first :: rest) =
        lineHead first.1 ++ (first.2 ++ '"' :: '\n' :: exportLines rest) := by
      rw [exportLines, List.flatMap_cons, exportLine_eq, List.append_assoc, List.append_assoc]
      rfl
    have hmarks : KeepsMarks (inQuotes (settingWord first.1 []))
        (first.2 ++ '"' :: '\n' :: exportLines rest) := by
      intro x hx
      have hkeep := h x hx
      rw [hlines] at hkeep
      have hrest := hkeep.append.2
      rwa [scan_lineHead hname] at hrest
    have hvalue : Unaltered first.2 := unaltered_of_keepsMarks hquote hmarks
    refine List.forall_mem_cons.mpr ⟨hvalue, ih hnames hquotes fun x hx => ?_⟩
    have hkeep := h x hx
    rw [exportLines, List.flatMap_cons] at hkeep
    have hrest := hkeep.append.2
    rwa [scan_exportLine hname hvalue] at hrest

/-- Where a shell sets the variables as they are written, their values are unaltered. -/
theorem unaltered_of_assignments?
    (h : assignments? (scan {} (exportLines exported)).1 = some exported) :
    ∀ set ∈ exported, isName set.1 = true ∧ Unaltered set.2 := by
  have hnames : ∀ set ∈ exported, isName set.1 = true := (of_assignments? (x := ' ') h).1
  have hnil : State.literals {} = [] := rfl
  have hkeeps {x : Char} (hx : x ∉ [' ', '"', '"']) : Keeps x {} (exportLines exported) := by
    have hle := (of_assignments? (x := x) h).2
    have hge := State.tally_scan_le x {} (exportLines exported)
    rw [count_exportLines hx] at hge
    rw [Keeps, count_exportLines hx]
    rw [tally, hnil, List.count_nil] at hge
    rw [tally, hnil, List.count_nil]
    omega
  have hquotes : ∀ set ∈ exported, '"' ∉ set.2 := by
    have hnone : tally '"' (scan {} (exportLines exported)) ≤ 0 :=
      State.IsOpen.scan (s := {}) ⟨by decide, by decide⟩ (hkeeps (by decide)) (hkeeps (by decide))
    have hsaid := (of_assignments? (x := '"') h).2
    rw [tally] at hnone
    have hzero : (exported.flatMap saying).count '"' = 0 := by omega
    intro set hset hmem
    refine List.count_eq_zero.mp hzero (List.mem_flatMap.mpr ⟨set, hset, ?_⟩)
    simp [saying, hmem]
  have hmarks : KeepsMarks {} (exportLines exported) := by
    intro x hx
    simp only [List.mem_cons, List.not_mem_nil, or_false] at hx
    rcases hx with rfl | rfl | rfl <;> exact hkeeps (by decide)
  have hvalues := unaltered_of_keepsMarks_exportLines hnames hquotes hmarks
  exact fun set hset => ⟨hnames set hset, hvalues set hset⟩

end Lines

theorem wrapperScript_eq (exported : List (Text × Text)) (command : Text) :
    wrapperScript exported command =
      shebang.toList ++ exportLines exported ++ becomeLine command := by
  let lines := shebang.toList ++ exportLines exported
  calc wrapperScript exported command
    _ = lines ++ ("exec ".toList ++ command) ++ " \"$@\"\n".toList :=
        congrArg (· ++ " \"$@\"\n".toList) (List.append_assoc lines "exec ".toList command)
    _ = lines ++ becomeLine command := List.append_assoc ..

theorem scan_script (exported : List (Text × Text)) :
    scan {} (shebang.toList ++ exportLines exported) =
      (.operator '\n' :: (scan {} (exportLines exported)).1, (scan {} (exportLines exported)).2) := by
  have hfirst : scan {} shebang.toList = ([.operator '\n'], {}) := by decide
  rw [State.scan_append, hfirst]
  rfl

/-- A shell that runs the script gives every variable the value that is written for it, and does
nothing else before it becomes the command, exactly if the names are names of variables and the
values are unaltered between double quotes. Each variable then has the last of its values, and the
others are as before. -/
theorem exports_wrapperScript_iff (exported : List (Text × Text)) (command : Text) :
    (Exports (wrapperScript exported command) exported (becomeLine command) ↔
      ∀ set ∈ exported, isName set.1 = true ∧ Unaltered set.2) ∧
    ∀ (e : Environment) (name : String), (e.exporting exported).get? name =
      ((exported.reverse.find? fun set => set.1 = name.toList).map Prod.snd).or (e.get? name) := by
  refine ⟨⟨?_, fun h => ?_⟩, fun e name => e.get?_exporting exported name⟩
  · rintro ⟨first, hfirst, -, hassigned⟩
    rw [wrapperScript_eq] at hfirst
    obtain rfl := List.append_cancel_right hfirst
    rw [scan_script] at hassigned
    exact unaltered_of_assignments? hassigned
  · obtain ⟨tokens, hscan, htokens⟩ := scan_exportLines h
    refine ⟨_, wrapperScript_eq exported command, ?_, ?_⟩
    · rw [scan_script, hscan]
    · rw [scan_script, hscan]
      exact htokens

/-- The name of a variable in a value is replaced by the value of that variable. -/
theorem not_exports_expansion :
    ¬ ∀ (exported : List (Text × Text)) (command : Text),
      (∀ set ∈ exported, isName set.1 = true ∧ '\x00' ∉ set.2) →
        Exports (wrapperScript exported command) exported (becomeLine command) := by
  intro h
  let home : Text × Text := ("A".toList, "$HOME".toList)
  obtain ⟨first, hfirst, -, hassigned⟩ := h [home] "/bin/true".toList (by decide)
  rw [wrapperScript_eq] at hfirst
  obtain rfl := List.append_cancel_right hfirst
  rw [scan_script] at hassigned
  have hvalue : Unaltered home.2 := (unaltered_of_assignments? hassigned home List.mem_cons_self).2
  exact hvalue.1 (by decide)

end Launch

end TermPilot
