import TermPilot.DebugLog.Basic
import TermPilot.Proofs.Text.Lines
import TermPilot.Proofs.Text.Utf8
import TermPilot.Proofs.Wait.Poll

/-!
# Waiting for a line of a log that is being written

The program under test may be anywhere in a line when the log is looked at. The finished lines of
what it has written by then are lines of the whole log; what stands behind them may be a piece of a
line. So a wait gives a line of the whole log, unless it accepts such a piece.
-/

namespace TermPilot.DebugLog

open Wait (Event Surroundings)

/-! ## Lines of a log and of its pieces -/

/-- The lines of a log. -/
def linesOf (bytes : List UInt8) : List Text := Text.boundedLines (Files.markedText bytes)

/-- The lines of a log that end in a line boundary. -/
def finishedLines (bytes : List UInt8) : List Text :=
  Text.boundedLines (Text.finished (Files.markedText bytes))

/-- What stands behind the finished lines. -/
def lastPiece (bytes : List UInt8) : Text := Text.unfinished (Files.markedText bytes)

section Pieces

variable {piece log : List UInt8}

theorem linesOf_eq (bytes : List UInt8) :
    linesOf bytes =
      finishedLines bytes ++ if lastPiece bytes = [] then [] else [lastPiece bytes] :=
  Text.boundedLines_eq (Text.not_mem_normaliseLineEnds _)

/-- A log that goes on keeps its text, but for the mark of a character that is left unfinished, and
this mark is no line boundary. -/
theorem exists_readText (h : piece <+: log) : ∃ kept mark : Text,
    Files.markedText piece = kept ++ mark ∧ (∀ c ∈ mark, Text.isLineBoundary c = false) ∧
      kept <+: Files.markedText log := by
  obtain ⟨later, rfl⟩ := h
  obtain ⟨decoded, mark, hpiece, hmark, hkept⟩ := Text.Utf8.exists_decoded piece
  have hplain : Text.normaliseLineEnds mark = mark ∧ mark.head? ≠ some '\n' ∧
      ∀ c ∈ mark, Text.isLineBoundary c = false := by
    rcases hmark with rfl | rfl
    · exact ⟨rfl, by decide, nofun⟩
    · exact ⟨rfl, by decide, List.forall_mem_singleton.mpr rfl⟩
  obtain ⟨hsame, hhead, hboundary⟩ := hplain
  refine ⟨Text.normaliseLineEnds decoded, mark, ?_, hboundary, ?_⟩
  · rw [Files.markedText, hpiece, Text.normaliseLineEnds_append hhead, hsame]
  · obtain ⟨rest, hrest⟩ := hkept later
    rw [Files.markedText, ← hrest]
    exact Text.normaliseLineEnds_isPrefix decoded rest

/-- The finished lines of a piece of a log are the first lines of the log. -/
theorem finishedLines_isPrefix (h : piece <+: log) : finishedLines piece <+: linesOf log := by
  obtain ⟨kept, mark, hpiece, hmark, hkept⟩ := exists_readText h
  have hreturn : '\r' ∉ kept := by
    intro hmem
    refine Text.not_mem_normaliseLineEnds (Text.Utf8.decodeMarked piece) ?_
    rw [← Files.markedText, hpiece]
    exact List.mem_append_left _ hmem
  rw [finishedLines, hpiece, Text.finished_append hmark]
  exact Text.boundedLines_finished_isPrefix hreturn hkept

end Pieces

/-! ## Logs that are written -/

/-- Whenever the files are looked at, the log holds the first few of some chunks, and later on no
fewer of them. All chunks together are the given log. -/
def Appends (s : Surroundings FileStore) (path : Path) (log : List UInt8) : Prop :=
  ∃ (chunks : List (List UInt8)) (written : List (Event FileStore) → Nat),
    chunks.flatten = log ∧ (∀ past event, written past ≤ written (past ++ [event])) ∧
      ∀ past, (s.sample past).read path = .ok (chunks.take (written past)).flatten

section Waiting

variable {s : Surroundings FileStore} {path : Path} {log piece bytes : List UInt8}
  {accept : Text → Bool} {line : Text} {past : List (Event FileStore)} {timeout : Float}
  {attempts : Nat}

theorem Appends.read_isPrefix (h : Appends s path log) (past : List (Event FileStore)) :
    ∃ piece, piece <+: log ∧ (s.sample past).read path = .ok piece := by
  obtain ⟨chunks, written, rfl, -, hread⟩ := h
  refine ⟨_, ⟨(chunks.drop (written past)).flatten, ?_⟩, hread past⟩
  rw [← List.flatten_append, List.take_append_drop]

/-- The first accepted line of a log in the files. -/
def firstMatch (path : Path) (accept : Text → Bool) (files : FileStore) : Option Text :=
  ((lines files path).toOption.getD []).find? accept

theorem lines_of_read {files : FileStore} (h : files.read path = .ok bytes) :
    lines files path = .ok (linesOf bytes) := by
  rw [lines, h]
  rfl

theorem firstMatch_of_read {files : FileStore} (h : files.read path = .ok bytes) :
    firstMatch path accept files = (linesOf bytes).find? accept := by
  rw [firstMatch, lines_of_read h]
  rfl

theorem isSample_findLine (h : ∀ past, ∃ bytes, (s.sample past).read path = .ok bytes) :
    s.IsSample (findLine s.take path accept) (firstMatch path accept) := by
  intro past
  obtain ⟨bytes, hread⟩ := h past
  have htake : s.take.run.run past = (.ok (s.sample past), past ++ [.sampled (s.sample past)]) :=
    rfl
  rw [findLine, Act.run_bind_of_ok htake, lines_of_read hread, firstMatch_of_read hread]
  rfl

/-- A line that a wait gives is the first accepted one in the files at one of the looks. -/
theorem exists_look_of_waitForLine (h : ∀ past, ∃ bytes, (s.sample past).read path = .ok bytes)
    (hline : ((waitForLine s.bench s.take path accept timeout attempts).run.run past).1 =
      .ok (some line)) : ∃ earlier, firstMatch path accept (s.sample earlier) = some line := by
  have hact : s.IsSample (findLine s.take path accept) (firstMatch path accept) :=
    isSample_findLine h
  obtain ⟨new, outcome, hwait⟩ := Wait.exists_goesAsWait hact (fun line => .ok line.isSome)
    (fun line => (line.getD [], none)) { timeout, interval, attempts } past
  have hrun := hwait.run
  have hgives := hwait.gives
  cases hwait.isWait with
  | returned start failed last hfailed hlast =>
    rw [waitForLine, Act.run_bind_of_ok hrun] at hline
    have hsampled : .sampled last ∈ Event.read start ::
        (failed.flatMap (Wait.Attempt.events interval) ++ [.sampled last]) := by simp
    obtain ⟨earlier, rfl⟩ := hgives.exists_sample hsampled
    exact ⟨earlier, Except.ok.inj hline⟩
  | timedOut start failed last time hfailed hlast hover =>
    rw [waitForLine, Act.run_bind_of_ok hrun] at hline
    cases hline
  | fault start failed last fault hfailed hlast => cases hlast
  | exhausted start failed hfailed hlength =>
    rw [waitForLine, Act.run_bind_of_error hrun] at hline
    cases hline

/-- If there is an accepted line at the first look, the wait gives the first such line. -/
theorem run_waitForLine_of_found (h : ∀ past, ∃ bytes, (s.sample past).read path = .ok bytes)
    (hfound : ∀ past, firstMatch path accept (s.sample past) = some line) :
    ((waitForLine s.bench s.take path accept timeout (attempts + 1)).run.run past).1 =
      .ok (some line) := by
  have hact : s.IsSample (findLine s.take path accept) (firstMatch path accept) :=
    isSample_findLine h
  obtain ⟨later, hfind⟩ : ∃ later, (findLine s.take path accept).run.run
      (past ++ [.read (s.time past)]) = (.ok (some line), later) :=
    ⟨_, (hact _).trans (by rw [hfound])⟩
  have hpoll : (Wait.poll s.bench (findLine s.take path accept) (fun line => .ok line.isSome)
      { timeout, interval, attempts := attempts + 1 }).run.run past =
        (.ok (.satisfied (some line)), later) := by
    rw [Wait.poll, Act.run_bind_of_ok (s.run_now past), Wait.pollFrom, Act.run_bind_of_ok hfind]
    rfl
  have hawait : (Wait.await s.bench (findLine s.take path accept) (fun line => .ok line.isSome)
      (fun line => (line.getD [], none))
      { timeout, interval, attempts := attempts + 1 }).run.run past =
        (.ok (.ok (some line)), later) := by
    rw [Wait.await, Act.run_bind_of_ok hpoll]
    rfl
  rw [waitForLine, Act.run_bind_of_ok hawait]
  rfl

/-- Files with nothing but a log. -/
def logStore (bytes : List UInt8) : FileStore :=
  { home := ⟨['/'], []⟩, nodes := [([['l']], .file bytes)] }

/-- The path of that log. -/
def logPath : Path := ⟨['/'], [['l']]⟩

theorem read_logStore (bytes : List UInt8) : (logStore bytes).read logPath = .ok bytes := rfl

/-- Surroundings in which nothing is written after a piece of the log. -/
def pausedAt (piece : List UInt8) : Surroundings FileStore where
  time := fun _ => 0
  sample := fun _ => logStore piece

theorem appends_pausedAt (h : piece <+: log) : Appends (pausedAt piece) logPath log := by
  obtain ⟨rest, rfl⟩ := h
  refine ⟨[piece, rest], fun _ => 1, ?_, fun _ _ => Nat.le_refl 1, fun _ => ?_⟩
  · rw [List.flatten_cons, List.flatten_cons, List.flatten_nil, List.append_nil]
  · rw [List.take_succ_cons, List.take_zero, List.flatten_cons, List.flatten_nil, List.append_nil]
    exact read_logStore piece

/-- If a piece of a log has an accepted line, a wait may give the first such line. -/
theorem run_waitForLine_pausedAt (h : (linesOf piece).find? accept = some line) :
    ((waitForLine (pausedAt piece).bench (pausedAt piece).take logPath accept timeout
      (attempts + 1)).run.run past).1 = .ok (some line) :=
  run_waitForLine_of_found (fun _ => ⟨piece, read_logStore piece⟩)
    fun _ => (firstMatch_of_read (read_logStore piece)).trans h

end Waiting

/-- A wait gives a line of the whole log, however the log is written and whenever it is looked at,
exactly if no piece of the log makes it accept what is no line: what stands behind the finished
lines of a piece, where none of these is accepted. -/
theorem waitForLine_mem_linesOf_iff (log : List UInt8) (accept : Text → Bool) :
    (∀ (s : Surroundings FileStore) (path : Path), Appends s path log →
      ∀ (timeout : Float) (attempts : Nat) (past : List (Event FileStore)) (line : Text),
        ((waitForLine s.bench s.take path accept timeout attempts).run.run past).1 =
          .ok (some line) → line ∈ linesOf log) ↔
      ∀ piece, piece <+: log → (∀ line ∈ finishedLines piece, accept line = false) →
        lastPiece piece ≠ [] → accept (lastPiece piece) = true →
          lastPiece piece ∈ linesOf log := by
  constructor
  · intro h piece hpiece hrefused hne haccept
    have hfirst : (linesOf piece).find? accept = some (lastPiece piece) := by
      have hnone : (finishedLines piece).find? accept = none :=
        List.find?_eq_none.mpr fun line hline => by simp [hrefused line hline]
      rw [linesOf_eq, List.find?_append, hnone, if_neg hne, List.find?_cons_of_pos haccept]
      rfl
    exact h (pausedAt piece) logPath (appends_pausedAt hpiece) 0 1 [] _
      (run_waitForLine_pausedAt hfirst)
  · intro h s path happends timeout attempts past line hline
    obtain ⟨earlier, hfirst⟩ := exists_look_of_waitForLine
      (fun past => (happends.read_isPrefix past).imp fun _ hpiece => hpiece.2) hline
    obtain ⟨piece, hpiece, hread⟩ := happends.read_isPrefix earlier
    rw [firstMatch_of_read hread, linesOf_eq, List.find?_append] at hfirst
    cases hfinished : (finishedLines piece).find? accept with
    | some found =>
      rw [hfinished] at hfirst
      obtain rfl : found = line := Option.some.inj hfirst
      exact (finishedLines_isPrefix hpiece).subset (List.mem_of_find?_eq_some hfinished)
    | none =>
      have hrefused : ∀ line ∈ finishedLines piece, accept line = false := by
        intro line hline
        simpa using List.find?_eq_none.mp hfinished line hline
      rw [hfinished, Option.none_or] at hfirst
      by_cases hnil : lastPiece piece = []
      · rw [if_pos hnil] at hfirst
        cases hfirst
      · rw [if_neg hnil] at hfirst
        have haccept := List.find?_some hfirst
        obtain rfl := List.mem_singleton.mp (List.mem_of_find?_eq_some hfirst)
        exact h piece hpiece hrefused hnil haccept

/-- A look between two writes of one line gives its first piece. -/
theorem waitForLine_gives_piece :
    ¬ ∀ (log : List UInt8) (accept : Text → Bool) (s : Surroundings FileStore) (path : Path),
      Appends s path log →
        ∀ (timeout : Float) (attempts : Nat) (past : List (Event FileStore)) (line : Text),
          ((waitForLine s.bench s.take path accept timeout attempts).run.run past).1 =
            .ok (some line) → line ∈ linesOf log := by
  intro h
  let piece := Text.Utf8.encode "ready".toList
  let log := Text.Utf8.encode "ready now\n".toList
  have hpiece : piece <+: log := by decide
  have hfirst : (linesOf piece).find? (Text.occursIn "ready".toList) = some "ready".toList := by
    decide
  have hmem := h log _ _ _ (appends_pausedAt hpiece) 1 1 [] _ (run_waitForLine_pausedAt hfirst)
  have hlog : linesOf log = ["ready now".toList] := by decide
  rw [hlog] at hmem
  exact absurd hmem (by decide)

end TermPilot.DebugLog
