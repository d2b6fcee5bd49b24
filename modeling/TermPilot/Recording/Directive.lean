import TermPilot.Number.Numeral
import TermPilot.Recording.Event
import TermPilot.Text.Base64
import TermPilot.Text.Utf8

/-!
# Directives of a recording

A directive is a line `kind:payload` for an event that is no key press. A payload that is not
well formed stands for no event.
-/

namespace TermPilot.Recording

/-- A payload's event, if it is well formed, unless reading it fails. -/
abbrev Payload (α : Type) := Except RecordingError (Option α)

/-- The greatest coordinate and size. -/
def maxCoordinate : Nat := 65535

/-- A coordinate or size. -/
def coordinate? (t : Text) : Payload Nat :=
  if Text.isNumeral t then
    match Numeral.plain t with
    | .ok n => .ok (if n ≤ maxCoordinate then some n else none)
    | .error (.tooLong digits) => .error (.numeralTooLong digits)
    | .error .malformed => .ok none
  else .ok none

/-- Two coordinates or sizes with `sep` between them. -/
def pair? (sep : Char) (t : Text) : Except RecordingError (Option (Nat × Nat)) :=
  match Text.cutAt sep t with
  | none => .ok none
  | some (first, second) => do
    let first ← coordinate? first
    let second ← coordinate? second
    match first, second with
    | some a, some b => return some (a, b)
    | _, _ => return none

/-- The text before the first blank, and what follows that blank. -/
def cutWord (t : Text) : Text × Option Text :=
  match Text.cutAt ' ' t with
  | some (word, rest) => (word, some rest)
  | none => (t, none)

/-- A column and a row; whatever follows a blank after them is skipped. -/
def position? (t : Text) : Except RecordingError (Option (Nat × Nat)) := pair? ',' (cutWord t).1

/-- The event of a button or wheel word and a position. -/
def pointer? {α : Type} (ofWord? : Text → Option α) (event : α → Int → Int → RecordedEvent)
    (word position : Text) : Except RecordingError (Option RecordedEvent) := do
  match ← position? position, ofWord? word with
  | some (col, row), some what => return some (event what col row)
  | _, _ => return none

/-- The event of a position alone. -/
def placed? (event : Int → Int → RecordedEvent) (position : Text) :
    Except RecordingError (Option RecordedEvent) := do
  return (← position? position).map fun (col, row) => event col row

/-- The event of a mouse directive. -/
def mouse? (payload : Text) : Payload RecordedEvent :=
  let (kind, rest) := cutWord payload
  match rest with
  | none => .ok none
  | some rest =>
    let (word, position) := cutWord rest
    if kind = "release".toList then placed? .release word
    else if kind = "move".toList then placed? .move word
    else if kind = "press".toList then
      pointer? MouseButton.ofWord? .press word (position.getD [])
    else if kind = "drag".toList then
      pointer? MouseButton.ofWord? .drag word (position.getD [])
    else if kind = "scroll".toList then
      pointer? ScrollDirection.ofWord? .scroll word (position.getD [])
    else .ok none

/-- The event of a paste directive, whose payload is the text in base 64. -/
def paste? (payload : Text) : Payload RecordedEvent :=
  if payload.all fun c => c.toNat < 0x80 then
    .ok (((Text.Base64.decode? payload).bind Text.Utf8.decode?).map .paste)
  else .error .pasteNotAscii

/-- The event of a resize directive. -/
def resize? (payload : Text) : Except RecordingError (Option RecordedEvent) := do
  return (← pair? 'x' payload).map fun (cols, rows) => .resize cols rows

/-- The event of a focus directive. -/
def focus? (payload : Text) : Payload RecordedEvent :=
  if payload = "in".toList then .ok (some (.focus true))
  else if payload = "out".toList then .ok (some (.focus false))
  else .ok none

/-- The reader of the payloads of a kind of directive. -/
def reader? (kind : Text) : Option (Text → Payload RecordedEvent) :=
  if kind = "mouse".toList then some mouse?
  else if kind = "paste".toList then some paste?
  else if kind = "resize".toList then some resize?
  else if kind = "focus".toList then some focus?
  else none

end TermPilot.Recording
