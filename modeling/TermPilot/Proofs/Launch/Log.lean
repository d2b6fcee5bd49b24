import TermPilot.Launch.Scripts
import TermPilot.Proofs.Text.Lines
import TermPilot.Proofs.Text.Utf8

/-!
# The log of a stand-in

A stand-in ends every entry of its log with a line feed, and the log is read with a line ending at
every line boundary. Each entry is read by itself, since it ends in a line feed, but an entry that
holds another boundary is read as several lines, and a carriage return in it is lost. So a log
reads back as it was written exactly if no entry holds a boundary.
-/

namespace TermPilot.Launch

open Text (boundedLines isLineBoundary normaliseLineEnds)

/-! ## Logs -/

/-- A run of a stand-in. -/
structure MockRun where
  /-- The working directory. -/
  directory : Text
  arguments : List Text
deriving Repr, DecidableEq

namespace MockRun

/-- What a run writes to the log: the working directory and every argument. -/
def entries (run : MockRun) : List Text := run.directory :: run.arguments

/-- The bytes that a run appends to the log. -/
def appended (run : MockRun) : List UInt8 :=
  run.entries.flatMap fun entry => Text.Utf8.encode (entry ++ ['\n'])

end MockRun

/-- The lines that an entry is read as. -/
def linesOfEntry (entry : Text) : List Text := boundedLines (normaliseLineEnds (entry ++ ['\n']))

section Entries

variable {entry : Text}

theorem linesOfEntry_of_unbounded (h : ∀ c ∈ entry, isLineBoundary c = false) :
    linesOfEntry entry = [entry] := by
  have hreturn : '\r' ∉ entry ++ ['\n'] := by
    rw [List.mem_append, not_or]
    exact ⟨fun hmem => absurd (h _ hmem) (by decide), by decide⟩
  rw [linesOfEntry, Text.normaliseLineEnds_eq_self hreturn,
    Text.boundedLines_concat h (by decide)]

/-- The lines of entries are those of each by itself. -/
theorem boundedLines_entries (entries : List Text) :
    boundedLines (normaliseLineEnds (entries.flatMap (· ++ ['\n']))) =
      entries.flatMap linesOfEntry := by
  induction entries with
  | nil => rfl
  | cons entry entries ih =>
    have hmeet : ¬ ((entry ++ ['\n']).getLast? = some '\r' ∧
        (entries.flatMap (· ++ ['\n'])).head? = some '\n') := by
      rw [List.getLast?_concat]
      exact fun h => absurd h.1 (by decide)
    have hend : ∀ c ∈ (normaliseLineEnds (entry ++ ['\n'])).getLast?, isLineBoundary c = true := by
      rw [Text.getLast?_normaliseLineEnds List.getLast?_concat]
      intro c hc
      obtain rfl : '\n' = c := Option.some.inj hc
      decide
    rw [List.flatMap_cons, Text.normaliseLineEnds_append_of_not_meet hmeet,
      Text.boundedLines_append (Text.not_mem_normaliseLineEnds _) hend, ih, List.flatMap_cons]
    rfl

/-- Entries are the lines of a log exactly if they hold no boundary. -/
theorem flatMap_linesOfEntry_iff {entries : List Text} :
    entries.flatMap linesOfEntry = entries ↔
      ∀ entry ∈ entries, ∀ c ∈ entry, isLineBoundary c = false := by
  constructor
  · intro h entry hentry c hc
    rw [← h, ← boundedLines_entries] at hentry
    exact Text.not_isLineBoundary_of_mem_boundedLines hentry hc
  · intro h
    calc entries.flatMap linesOfEntry
      _ = entries.flatMap ([·]) :=
          List.flatMap_congr fun entry hentry => linesOfEntry_of_unbounded (h entry hentry)
      _ = entries := List.flatMap_singleton' entries

end Entries

section Runs

/-- The log of runs is read as the lines of their entries. -/
theorem logLines?_appended (runs : List MockRun) :
    logLines? (runs.flatMap MockRun.appended) =
      some ((runs.flatMap MockRun.entries).flatMap linesOfEntry) := by
  have hbytes : runs.flatMap MockRun.appended =
      Text.Utf8.encode ((runs.flatMap MockRun.entries).flatMap (· ++ ['\n'])) := by
    rw [Text.Utf8.encode, List.flatMap_assoc, List.flatMap_assoc]
    rfl
  rw [logLines?, Files.text?, hbytes, Text.Utf8.decode?_encode, Option.map_some, Option.map_some,
    boundedLines_entries]

/-- A log is read as the working directory and the arguments of each run, one after the other,
exactly if no working directory and no argument holds a line boundary. -/
theorem logLines?_eq_entries_iff (runs : List MockRun) :
    logLines? (runs.flatMap MockRun.appended) = some (runs.flatMap MockRun.entries) ↔
      ∀ run ∈ runs, ∀ entry ∈ run.entries, ∀ c ∈ entry, isLineBoundary c = false := by
  rw [logLines?_appended, Option.some.injEq, flatMap_linesOfEntry_iff, List.forall_mem_flatMap]

/-- An argument with a form feed is read as two. -/
theorem logLines?_formFeed :
    ¬ ∀ runs : List MockRun, (∀ run ∈ runs, ∀ entry ∈ run.entries, '\n' ∉ entry) →
      logLines? (runs.flatMap MockRun.appended) = some (runs.flatMap MockRun.entries) := by
  intro h
  let run : MockRun := ⟨"/w".toList, [['a', '\x0c', 'b']]⟩
  have hlog := h [run] (by decide)
  rw [logLines?_appended] at hlog
  exact absurd hlog (by decide)

end Runs

end TermPilot.Launch
