import TermPilot.Log.Record
import TermPilot.Recording.Directive
import TermPilot.Text.Blank
import TermPilot.Text.Quoted

/-!
# Reading a recording

A recording is read line by line. Key names on lines that follow one another make up one event; a
blank line or a directive ends it, a comment does not. A directive that is not well formed is
dropped with a warning.
-/

namespace TermPilot.Recording

/-- A line without the blanks around it. -/
inductive Line where
  /-- A remark. -/
  | comment
  /-- Nothing. -/
  | blank
  /-- The name of a key. -/
  | key (name : Text)
  /-- A directive of a known kind and what its payload says. -/
  | directive (kind : Text) (event : Payload RecordedEvent)

/-- What a line without blanks around it is. -/
def Line.of (line : Text) : Line :=
  match line with
  | [] => .blank
  | '#' :: _ => .comment
  | _ => match Text.cutAt ':' line with
    | none => .key line
    | some (kind, payload) => match reader? kind with
      | none => .key line
      | some reader => .directive kind (reader payload)

/-- What has been read: the events, unless reading failed, and the warnings up to there. -/
structure Reading where
  /-- The warnings, in the order of their lines. -/
  warnings : List RecordingWarning := []
  /-- The events, in order. -/
  events : Except RecordingError (List RecordedEvent) := .ok []

/-- The reading with events in front. -/
def Reading.after (events : List RecordedEvent) (r : Reading) : Reading :=
  { r with events := r.events.map (events ++ ·) }

/-- The reading with a warning in front. -/
def Reading.warned (warning : RecordingWarning) (r : Reading) : Reading :=
  { r with warnings := warning :: r.warnings }

/-- The event of a batch of keys, if there are any. -/
def batchEvent (batch : List Text) : List RecordedEvent :=
  if batch.isEmpty then [] else [.keys batch]

/-- Reads trimmed lines, the first of which has the given number, after a batch of keys that has
not ended yet. -/
def readLines (number : Nat) (batch : List Text) : List Text → Reading
  | [] => { events := .ok (batchEvent batch) }
  | line :: rest =>
    match Line.of line with
    | .comment => readLines (number + 1) batch rest
    | .blank => (readLines (number + 1) [] rest).after (batchEvent batch)
    | .key name => readLines (number + 1) (batch ++ [name]) rest
    | .directive kind event => match event with
      | .error error => { events := .error error }
      | .ok (some event) => (readLines (number + 1) [] rest).after (batchEvent batch ++ [event])
      | .ok none =>
        ((readLines (number + 1) [] rest).after (batchEvent batch)).warned ⟨kind, number, line⟩

/-- Reads a recording. -/
def read (t : Text) : Reading := readLines 1 [] ((Text.splitOn '\n' t).map Text.trim)

/-- The record of a dropped line. -/
def dropped (w : RecordingWarning) : LogRecord :=
  let kind := Text.string w.kind
  let shown := Text.string (Text.quoted w.line)
  .debug "recording" s!"Dropping malformed {kind} line {w.lineNumber}: {shown}"

end TermPilot.Recording
