import TermPilot.Keys.Typing
import TermPilot.Recording.Read
import TermPilot.Replay.Timing

/-!
# Replaying recorded events

Recorded events are sent to a terminal in their order. Keys are encoded for the modes of the
terminal; names that stand for no key are left out. An encoder that remembers nothing is a special
case of one that may remember what it was asked.
-/

namespace TermPilot.Replay

/-- What a paste is sent between. -/
def pasteStart : Text := Terminal.controlSequence "200" "~"

/-- What ends a paste. -/
def pasteEnd : Text := Terminal.controlSequence "201" "~"

/-- Sends one key, with a pause after it. A name that stands for no key press is told to the log. -/
def keyActions (delay : Float) : Text × Option Text → List Action
  | (name, none) => [.log (Typing.unresolved name)]
  | (_, some text) => [.send text, .pause delay]

/-- Sends each key on its own, with a pause after it. -/
def keyByKey (delay : Float) (keys : Typing.Encodings) : Script :=
  ⟨keys.found.flatMap (keyActions delay), keys.failure⟩

/-- The records of names that stand for no key press. -/
def leftOut (found : List (Text × Option Text)) : List Action :=
  found.filterMap fun (name, encoded) =>
    if encoded.isNone then some (.log (Typing.unresolved name)) else none

/-- Sends a batch of keys as one text, or nothing if it is empty. -/
def atOnce (keys : Typing.Encodings) : Script :=
  match keys.failure with
  | some fault => ⟨leftOut keys.found, some fault⟩
  | none =>
    let text := (keys.found.filterMap Prod.snd).flatten
    .of (leftOut keys.found ++ if text.isEmpty then [] else [.send text])

/-- Sends a batch of keys and pauses. -/
def batch (timing : ReplayTiming) (keys : Typing.Encodings) : Script :=
  (if timing.keyDelay == 0 then atOnce keys else keyByKey timing.keyDelay keys).andThen
    (.of [.pause timing.batchPause])

variable {τ : Type}

/-- Sends one event. A release does not tell its button, so the left one is sent. -/
def eventWith (encoder : RecallingEncoder τ) (modes : KeyModes) (timing : ReplayTiming) :
    RecordedEvent → StateM τ Script
  | .keys names => batch timing <$> Typing.encodeNames encoder modes names
  | .press button col row => return .sendOutcome (Mouse.press button col row)
  | .release col row => return .sendOutcome (Mouse.release .left col row)
  | .drag button col row => return .sendOutcome (Mouse.drag button col row)
  | .scroll direction col row => return .sendOutcome (Mouse.scroll direction col row)
  | .move col row => return .sendOutcome (Mouse.move col row)
  | .paste text => return .of [.send (pasteStart ++ text ++ pasteEnd)]
  | .resize cols rows => return .of [.resize cols rows]
  | .focus gained => return .of [.send (Terminal.controlSequence "" (if gained then "I" else "O"))]

/-- Sends events in order, up to the first that fails: for what comes behind it, the encoder is not
asked. -/
def eventsWith (encoder : RecallingEncoder τ) (modes : KeyModes) (timing : ReplayTiming) :
    List RecordedEvent → StateM τ Script
  | [] => return {}
  | first :: later => do
    let script ← eventWith encoder modes timing first
    match script.failure with
    | some _ => return script
    | none => return script.andThen (← eventsWith encoder modes timing later)

/-- Sends one event with an encoder that remembers nothing. -/
def event (encoder : KeyEncoder) (modes : KeyModes) (timing : ReplayTiming) (e : RecordedEvent) :
    Script :=
  ((eventWith encoder.recalling modes timing e).run ()).1

/-- Sends events in order with an encoder that remembers nothing. -/
def events (encoder : KeyEncoder) (modes : KeyModes) (timing : ReplayTiming)
    (recorded : List RecordedEvent) : Script :=
  ((eventsWith encoder.recalling modes timing recorded).run ()).1

/-- The fault of a recording that could not be read. -/
def faultOf : RecordingError → Fault
  | .numeralTooLong digits => .numeralTooLong digits
  | .pasteNotAscii => .pasteNotAscii

/-- What reading a recording tells the log. -/
def readingLog (reading : Recording.Reading) : Script :=
  .of (reading.warnings.map fun w => .log (Recording.dropped w))

/-- Sends what a reading of a recording gave, after its log. -/
def ofReading (reading : Recording.Reading) (play : List RecordedEvent → Script) : Script :=
  (readingLog reading).andThen <| match reading.events with
    | .error error => .fail (faultOf error)
    | .ok recorded => play recorded

/-- Sends a recording and tells the log how many events it has. -/
def recording (encoder : KeyEncoder) (modes : KeyModes) (timing : ReplayTiming)
    (reading : Recording.Reading) : Script :=
  ofReading reading fun recorded =>
    (Script.of [.log (.info "replay" s!"Replaying {recorded.length} recorded events")]).andThen
      (events encoder modes timing recorded)

end TermPilot.Replay
