import Mathlib.Data.List.Infix
import TermPilot.Dump.Reading
import TermPilot.Proofs.Number.Decimal
import TermPilot.Proofs.Text.Parts

/-!
# Reading the dump of a wrapped command

A wrapped command prints its output, and then the script prints the marker, the status and a line
feed. The marker begins with a character that it does not hold a second time, so that it occurs only
once in all this, and at most one draw command of a dump begins with it. The status is read exactly
if that command draws nothing but the marker and the status.
-/

namespace TermPilot.Dump

open Double (digits)

/-! ## Dumps -/

/-- A command of a dump. -/
inductive Command where
  /-- Text is drawn. -/
  | draw (text : Text)
  /-- The cursor moves to the next line. -/
  | linefeed
  /-- Any other command, as it is reported. -/
  | other (line : Text)
deriving Repr, DecidableEq

namespace Command

/-- How a command is reported. -/
def line : Command → Text
  | draw text => "draw ".toList ++ text
  | linefeed => "screen_linefeed".toList
  | other line => line

/-- The text that a command prints. -/
def printed : Command → Text
  | draw text => text
  | linefeed => ['\n']
  | other _ => []

/-- The report is one line, and that of another command is neither that of a draw command nor that
of a line feed. -/
def IsReported : Command → Prop
  | draw text => '\n' ∉ text
  | linefeed => True
  | other line => '\n' ∉ line ∧ ¬ "draw ".toList <+: line ∧ line ≠ "screen_linefeed".toList

instance : DecidablePred IsReported
  | draw text => inferInstanceAs (Decidable ('\n' ∉ text))
  | linefeed => instDecidableTrue
  | other line =>
    inferInstanceAs
      (Decidable ('\n' ∉ line ∧ ¬ "draw ".toList <+: line ∧ line ≠ "screen_linefeed".toList))

end Command

/-- The lines report the commands one by one, each with any number of line feeds at its end. -/
def Reports : List Text → List Command → Prop :=
  List.Forall₂ fun line command => ∃ ends, line = command.line ++ List.replicate ends '\n'

/-- The commands print an output without the marker, and behind it what the script prints for a
status. -/
structure IsRun (output : Text) (status : Nat) (commands : List Command) : Prop where
  unmarked : ¬ marker.toList <:+: output
  status_lt : status < 256
  reported : ∀ command ∈ commands, command.IsReported
  printed : commands.flatMap Command.printed =
    output ++ (marker.toList ++ (digits status ++ ['\n']))

instance (output : Text) (status : Nat) (commands : List Command) :
    Decidable (IsRun output status commands) :=
  decidable_of_iff
    (¬ marker.toList <:+: output ∧ status < 256 ∧
      (∀ command ∈ commands, command.IsReported) ∧
      commands.flatMap Command.printed =
        output ++ (marker.toList ++ (digits status ++ ['\n'])))
    ⟨fun h => ⟨h.1, h.2.1, h.2.2.1, h.2.2.2⟩,
      fun h => ⟨h.unmarked, h.status_lt, h.reported, h.printed⟩⟩

/-! ## Items -/

section Items

/-- What drawn text tells. -/
def drawn (text : Text) : Item :=
  match Text.dropStart? marker.toList text with
  | some status => .ended (statusOf status)
  | none => .printed text

/-- What a command tells. -/
def Command.item : Command → Item
  | draw text => drawn text
  | linefeed => .printed ['\n']
  | other _ => .other

theorem drawn_marked (rest : Text) : drawn (marker.toList ++ rest) = .ended (statusOf rest) := by
  rw [drawn, Text.dropStart?_append]

theorem drawn_unmarked {text : Text} (h : ¬ marker.toList <+: text) :
    drawn text = .printed text := by
  rw [drawn, Text.dropStart?_eq_none h]

/-- A command is marked if it tells a status. -/
def Command.IsMarked (command : Command) : Prop :=
  ∃ rest, command = .draw (marker.toList ++ rest)

variable {command : Command} {commands : List Command}

/-- Only draw commands that begin with the marker tell a status, and the others tell what they
print. -/
theorem Command.item_of_not_isMarked (h : ¬ command.IsMarked) :
    command.item.status? = none ∧ command.item.text = command.printed := by
  cases command with
  | draw text =>
    have hunmarked : ¬ marker.toList <+: text := by
      rintro ⟨rest, rfl⟩
      exact h ⟨rest, rfl⟩
    rw [item, drawn_unmarked hunmarked]
    exact ⟨rfl, rfl⟩
  | linefeed => exact ⟨rfl, rfl⟩
  | other line => exact ⟨rfl, rfl⟩

/-- A dump that does not print the marker has no marked command. -/
theorem not_isMarked (h : ¬ marker.toList <:+: commands.flatMap Command.printed) :
    ∀ command ∈ commands, ¬ command.IsMarked := by
  rintro command hcommand ⟨rest, rfl⟩
  obtain ⟨before, after, rfl⟩ := List.append_of_mem hcommand
  rw [List.flatMap_append, List.flatMap_cons] at h
  refine h ⟨before.flatMap Command.printed, rest ++ after.flatMap Command.printed, ?_⟩
  simp only [Command.printed, List.append_assoc]

theorem flatMap_text_item (h : ∀ command ∈ commands, ¬ command.IsMarked) :
    (commands.map Command.item).flatMap Item.text = commands.flatMap Command.printed := by
  rw [List.flatMap_map]
  refine List.flatMap_congr fun command hcommand => ?_
  exact (command.item_of_not_isMarked (h command hcommand)).2

theorem filterMap_status?_item (h : ∀ command ∈ commands, ¬ command.IsMarked) :
    (commands.map Command.item).filterMap Item.status? = [] := by
  rw [List.filterMap_map, List.filterMap_eq_nil_iff]
  exact fun command hcommand => (command.item_of_not_isMarked (h command hcommand)).1

end Items

/-! ## Line ends -/

section LineEnds

theorem dropWhileEnd_append_lineFeeds {t : Text} (h : '\n' ∉ t) (ends : Nat) :
    Text.dropWhileEnd (· = '\n') (t ++ List.replicate ends '\n') = t := by
  have hends : ∀ c ∈ List.replicate ends '\n', decide (c = '\n') = true := by
    intro c hc
    rw [List.eq_of_mem_replicate hc]
    rfl
  rw [Text.dropWhileEnd, List.reverse_append, List.reverse_replicate,
    List.dropWhile_append_of_pos hends]
  refine List.rdropWhile_eq_self_iff.mpr fun hne hlast => h ?_
  rw [← of_decide_eq_true hlast]
  exact List.getLast_mem hne

theorem dropWhileEnd_append_lineEnd (t : Text) :
    Text.dropWhileEnd isLineEnd (t ++ ['\n']) = Text.dropWhileEnd isLineEnd t := by
  rw [Text.dropWhileEnd, List.reverse_append]
  rfl

theorem trimLineEnds_append_lineFeed (t : Text) : trimLineEnds (t ++ ['\n']) = trimLineEnds t := by
  rw [trimLineEnds, trimLineEnds, List.dropWhile_append]
  split
  · next hempty =>
    rw [List.isEmpty_iff.mp hempty]
    rfl
  · exact dropWhileEnd_append_lineEnd _

end LineEnds

/-! ## Reports -/

section Reports

variable {command : Command} {commands : List Command} {lines : List Text}

theorem Command.IsReported.lineFeed_not_mem (h : command.IsReported) : '\n' ∉ command.line := by
  cases command with
  | draw text =>
    have hstart : '\n' ∉ "draw ".toList := by decide
    exact fun hmem => (List.mem_append.mp hmem).elim hstart h
  | linefeed => decide
  | other line => exact h.1

/-- A line tells what the command that it reports is. -/
theorem Command.IsReported.ofLine_line (h : command.IsReported) (ends : Nat) :
    Item.ofLine (command.line ++ List.replicate ends '\n') = command.item := by
  rw [Item.ofLine, dropWhileEnd_append_lineFeeds h.lineFeed_not_mem]
  cases command with
  | draw text =>
    dsimp only [line]
    rw [Text.dropStart?_append]
    rfl
  | linefeed =>
    have hdraw : ¬ "draw ".toList <+: "screen_linefeed".toList := by decide
    dsimp only [line]
    rw [Text.dropStart?_eq_none hdraw]
    rfl
  | other line =>
    dsimp only [Command.line]
    rw [Text.dropStart?_eq_none h.2.1]
    exact if_neg h.2.2

theorem reports_map_line (commands : List Command) :
    Reports (commands.map Command.line) commands := by
  induction commands with
  | nil => exact .nil
  | cons command commands ih => exact .cons ⟨0, (List.append_nil _).symm⟩ ih

theorem Reports.map_ofLine (h : Reports lines commands)
    (hreported : ∀ command ∈ commands, command.IsReported) :
    lines.map Item.ofLine = commands.map Command.item := by
  induction h with
  | nil => rfl
  | cons hline _ ih =>
    obtain ⟨ends, rfl⟩ := hline
    obtain ⟨hcommand, hcommands⟩ := List.forall_mem_cons.mp hreported
    rw [List.map_cons, List.map_cons, hcommand.ofLine_line, ih hcommands]

end Reports

/-! ## The marker -/

section Marker

variable {output before after tail : Text}

/-- Behind an output without it, and in front of a text without its first character, the marker
occurs only once. -/
theorem append_marker_inj (houtput : ¬ marker.toList <:+: output) (htail : 'K' ∉ tail)
    (h : before ++ (marker.toList ++ after) = output ++ (marker.toList ++ tail)) :
    before = output ∧ after = tail := by
  have hfirst : 'K' ∉ marker.toList.tail := by decide
  obtain ⟨between, rfl⟩ := Text.prefix_of_append_marker hfirst houtput h
  rw [List.append_assoc] at h
  have hmarkers : between ++ (marker.toList ++ after) = marker.toList ++ tail :=
    List.append_cancel_left h
  cases between with
  | nil => exact ⟨List.append_nil output, List.append_cancel_left hmarkers⟩
  | cons c between =>
    -- the first character of the marker would come once more
    have hrest : between ++ (marker.toList ++ after) = marker.toList.tail ++ tail :=
      (List.cons.inj hmarkers).2
    have hmem : 'K' ∈ between ++ (marker.toList ++ after) :=
      List.mem_append_right between List.mem_cons_self
    rw [hrest, List.mem_append] at hmem
    exact absurd hmem (not_or_intro hfirst htail)

end Marker

/-! ## The status -/

section Status

variable {status : Nat}

theorem statusOf_digits (h : status < 256) : statusOf (digits status) = some (status : Int) := by
  have hall : ∀ status < 256, statusOf (digits status) = some (status : Int) := by decide +kernel
  exact hall status h

/-- Digits that are missing at the end make another status. -/
theorem eq_digits_of_statusOf (h : status < 256) {read : Text} (hstarts : read <+: digits status)
    (hread : statusOf read = some (status : Int)) : read = digits status := by
  have hall : ∀ status < 256, ∀ kept < (digits status).length,
      statusOf ((digits status).take kept) ≠ some (status : Int) := by decide +kernel
  by_contra hne
  have hshort : read.length < (digits status).length :=
    Nat.lt_of_le_of_ne hstarts.length_le fun hlength => hne (hstarts.eq_of_length hlength)
  refine hall status h read.length hshort ?_
  rwa [← List.prefix_iff_eq_take.mp hstarts]

end Status

/-! ## Runs -/

section Runs

variable {output : Text} {status : Nat} {commands : List Command}

/-- A status that is read is drawn behind the marker. -/
theorem exists_draw_of_lastStatus {read : Int}
    (h : lastStatus (commands.map Command.item) = some read) :
    ∃ rest, Command.draw (marker.toList ++ rest) ∈ commands ∧ statusOf rest = some read := by
  have hlast := List.mem_of_getLast? (Option.join_eq_some_iff.mp h)
  obtain ⟨item, hitem, hstatus⟩ := List.mem_filterMap.mp hlast
  obtain ⟨command, hcommand, rfl⟩ := List.mem_map.mp hitem
  by_cases hmarked : command.IsMarked
  · obtain ⟨rest, rfl⟩ := hmarked
    rw [Command.item, drawn_marked] at hstatus
    exact ⟨rest, hcommand, Option.some.inj hstatus⟩
  · rw [(command.item_of_not_isMarked hmarked).1] at hstatus
    cases hstatus

namespace IsRun

variable (h : IsRun output status commands)

include h

/-- The one draw command that begins with the marker follows the output. -/
theorem split {before after : List Command} {rest : Text}
    (hcommands : commands = before ++ .draw (marker.toList ++ rest) :: after) :
    before.flatMap Command.printed = output ∧
      rest ++ after.flatMap Command.printed = digits status ++ ['\n'] := by
  have hprinted := h.printed
  rw [hcommands, List.flatMap_append, List.flatMap_cons, Command.printed, List.append_assoc]
    at hprinted
  refine append_marker_inj h.unmarked ?_ hprinted
  rw [List.mem_append, not_or]
  exact ⟨Double.not_mem_digits (by decide) status, by decide⟩

/-- What follows the marker in a draw command are digits of the status. -/
theorem isPrefix_digits {rest : Text} (hdraw : Command.draw (marker.toList ++ rest) ∈ commands) :
    rest <+: digits status := by
  obtain ⟨before, after, hcommands⟩ := List.append_of_mem hdraw
  have hrest := (h.split hcommands).2
  have hlineFeed : '\n' ∉ rest := fun hmem =>
    h.reported _ hdraw (List.mem_append_right _ hmem)
  have hstarts : rest <+: digits status ++ ['\n'] := hrest ▸ List.prefix_append rest _
  rcases List.prefix_concat_iff.mp hstarts with hwhole | hdigits
  · refine absurd ?_ hlineFeed
    rw [hwhole]
    exact List.mem_append_right _ List.mem_cons_self
  · exact hdigits

end IsRun

end Runs

/-- The output and the status of a command are read exactly if the dump draws the marker and the
whole status by one command, which draws nothing else. -/
theorem read_run {output : Text} {status : Nat} {commands : List Command} {lines : List Text}
    (h : IsRun output status commands) (hlines : Reports lines commands) :
    read lines = (trimLineEnds output, some (status : Int)) ↔
      Command.draw (marker.toList ++ digits status) ∈ commands := by
  rw [read, hlines.map_ofLine h.reported]
  constructor
  · intro hread
    obtain ⟨rest, hdraw, hrest⟩ := exists_draw_of_lastStatus (congrArg Prod.snd hread)
    rwa [← eq_digits_of_statusOf h.status_lt (h.isPrefix_digits hdraw) hrest]
  · intro hdraw
    obtain ⟨before, after, rfl⟩ := List.append_of_mem hdraw
    obtain ⟨hbefore, hafter⟩ := h.split rfl
    replace hafter := List.append_cancel_left hafter
    have hunmarkedBefore := not_isMarked (hbefore ▸ h.unmarked)
    have hunmarkedAfter : ∀ command ∈ after, ¬ command.IsMarked := by
      refine not_isMarked ?_
      rw [hafter]
      decide
    have htext : ((before ++ .draw (marker.toList ++ digits status) :: after).map
        Command.item).flatMap Item.text = output ++ ['\n'] := by
      rw [List.map_append, List.flatMap_append, flatMap_text_item hunmarkedBefore, hbefore,
        List.map_cons, List.flatMap_cons, flatMap_text_item hunmarkedAfter, hafter, Command.item,
        drawn_marked]
      rfl
    have hlast : lastStatus ((before ++ .draw (marker.toList ++ digits status) :: after).map
        Command.item) = some (status : Int) := by
      have hended : Item.status? (.ended (some (status : Int))) = some (some (status : Int)) := rfl
      rw [lastStatus, List.map_append, List.filterMap_append,
        filterMap_status?_item hunmarkedBefore, List.map_cons, Command.item, drawn_marked,
        statusOf_digits h.status_lt, List.filterMap_cons_some hended,
        filterMap_status?_item hunmarkedAfter]
      rfl
    rw [htext, hlast, trimLineEnds_append_lineFeed]

/-- Two lines of output, the second not ended, and a status that is drawn by one command. -/
def sampleRun : List Command :=
  [.linefeed, .draw "running 3 ".toList, .draw "tests".toList,
    .other "screen_carriage_return".toList, .linefeed, .draw "ok".toList,
    .draw "KITTY_RUNNER_EXIT_CODE:3".toList, .linefeed]

theorem read_run_sampleRun :
    IsRun "\nrunning 3 tests\nok".toList 3 sampleRun ∧
      Reports (sampleRun.map Command.line) sampleRun ∧
      (read (sampleRun.map Command.line) = (trimLineEnds "\nrunning 3 tests\nok".toList, some 3) ↔
        Command.draw (marker.toList ++ digits 3) ∈ sampleRun) := by
  have hrun : IsRun "\nrunning 3 tests\nok".toList 3 sampleRun := by decide +kernel
  have hlines : Reports (sampleRun.map Command.line) sampleRun := reports_map_line sampleRun
  exact ⟨hrun, hlines, read_run hrun hlines⟩

/-- The last line of an output that is not ended may be drawn together with the marker. Then the
marker is read as output, and no status is read. -/
theorem read_loses_status :
    ¬ ∀ (output : Text) (status : Nat) (commands : List Command) (lines : List Text),
      IsRun output status commands → Reports lines commands →
        read lines = (trimLineEnds output, some (status : Int)) := by
  intro h
  let commands : List Command := [.draw "abcKITTY_RUNNER_EXIT_CODE:3".toList, .linefeed]
  have hread := h "abc".toList 3 commands (commands.map Command.line) (by decide +kernel)
    (reports_map_line commands)
  have hlost : read (commands.map Command.line) =
      ("abcKITTY_RUNNER_EXIT_CODE:3".toList, none) := by decide +kernel
  rw [hlost] at hread
  cases congrArg Prod.snd hread

end TermPilot.Dump
