import TermPilot.Emulator.Command
import TermPilot.Files.Error
import TermPilot.Json.Reader
import TermPilot.Keys.Encode
import TermPilot.Kitty.Error
import TermPilot.Pattern.Basic
import TermPilot.Wait.Timeout

/-!
# Faults

Everything that can end a session, a scenario or one of their parts, one constructor a cause.
-/

namespace TermPilot

/-- Why something could not be done. -/
inductive Fault where
  /-- A key press has no encoding. -/
  | encoding (error : KeyEncodingError)
  /-- A whole number has too many digits to be read. -/
  | numeralTooLong (digits : Nat)
  /-- A whole number has too many digits to be written. -/
  | unwritable (number : Int)
  /-- The content of a paste is not even ASCII. -/
  | pasteNotAscii
  /-- A pause of a replay is negative. -/
  | negativePause
  /-- A drag has no step. -/
  | noDragSteps
  /-- A number is beyond all doubles, or an infinity is no whole number. -/
  | beyondDoubles
  /-- A wait for a raw screen ran out of time. -/
  | rawTimeout (timeout : WaitTimeout Text)
  /-- A wait for a screen ran out of time. -/
  | screenTimeout (timeout : WaitTimeout (Text × Text))
  /-- A wait used up all the attempts that it was given. -/
  | attemptsExhausted
  /-- A file could not be reached. -/
  | file (error : FileError)
  /-- The bytes of a file are no text. -/
  | undecodable
  /-- A text is no JSON document. -/
  | notJson
  /-- A document or a pattern is nested too deeply. -/
  | tooDeep
  /-- A document does not satisfy its schema. -/
  | schema
  /-- A pattern is not well formed. -/
  | pattern
  /-- A pattern repeats something too often. -/
  | countTooGreat
  /-- A scenario names an unknown key. -/
  | unknownKey (name : Text)
  /-- There is no log level of the name. -/
  | unknownLevel (name : Text)
  /-- There is no log level of the name that a log was to be set up with. -/
  | unknownLogLevel (name : Text)
  /-- An environment variable is no number of seconds. -/
  | notSeconds (name : String) (value : Text)
  /-- An environment variable is a negative number of seconds. -/
  | negativeSeconds (name : String) (value : Text)
  /-- An environment variable is no name of a log level. -/
  | notALevel (name : String) (value : Text)
  /-- No snapshot has the label. -/
  | noSnapshot (label : Text)
  /-- Kitty did not do what it was asked. -/
  | kitty (error : KittyError)
  /-- A listing of windows could not be read. -/
  | listing (error : ListingError)
  /-- The command of a terminal is empty. -/
  | emptyCommand
  /-- There is no channel to the program of a terminal. -/
  | notStarted
  /-- There is no program in a terminal. -/
  | noProgram
  /-- The program of a terminal did not end in time. -/
  | stillRunning
  /-- The program of a terminal ended, but the system did not report how. -/
  | noEnding
  /-- A size is none that a program can be told of. -/
  | sizeOutOfRange
  /-- Output of a program holds a control sequence that is formed in a wrong way. -/
  | controlForm
  /-- Output of a program has a part of the screen erased that there is not. -/
  | controlPart

namespace Fault

/-- The fault of a text that could not be read as a number of digits. -/
def ofNumeral : NumeralError → Fault
  | .malformed => .notJson
  | .tooLong digits => .numeralTooLong digits

/-- The fault of a document that could not be read. -/
def ofJson : JsonError → Fault
  | .malformed => .notJson
  | .numeralTooLong digits => .numeralTooLong digits
  | .undecodable => .undecodable
  | .tooDeep => .tooDeep

/-- The fault of a pattern that could not be read. -/
def ofPattern : PatternError → Fault
  | .malformed => .pattern
  | .countTooGreat => .countTooGreat
  | .numeralTooLong digits => .numeralTooLong digits
  | .tooDeep => .tooDeep

/-- The fault of a control sequence that could not be obeyed. -/
def ofRefusal : Emulator.Refusal → Fault
  | .form => .controlForm
  | .part => .controlPart
  | .numeralTooLong digits => .numeralTooLong digits

/-- The message for a whole number of too many digits to be read. -/
def numeralMessage (digits : Nat) : String :=
  s!"Exceeds the limit ({Numeral.maxDigits} digits) for integer string conversion: value has " ++
    s!"{digits} digits; use sys.set_int_max_str_digits() to increase the limit"

/-- The message for a fault, for the causes that have one. -/
def message : Fault → String
  | .encoding error => error.message
  | .numeralTooLong digits => numeralMessage digits
  | .unwritable _ => Numeral.unwritableMessage
  | .pasteNotAscii => "string argument should contain only ASCII characters"
  | .negativePause => "Replay pauses must not be negative"
  | .noDragSteps => "steps must be at least 1"
  | .rawTimeout timeout => timeout.message
  | .screenTimeout timeout => timeout.message
  | .unknownKey name =>
    let shown := Text.string (Text.quoted name)
    s!"Unknown key name in scenario: {shown}"
  | .unknownLevel name =>
    let shown := Text.string (Text.quoted name)
    s!"Unknown level: {shown}"
  | .unknownLogLevel name =>
    let shown := Text.string (Text.quoted name)
    s!"Unknown log level: {shown}"
  | .notSeconds name value =>
    let shown := Text.string (Text.quoted value)
    s!"{name} must be a number of seconds, got {shown}"
  | .negativeSeconds name value =>
    let shown := Text.string (Text.quoted value)
    s!"{name} must not be negative, got {shown}"
  | .notALevel name value =>
    let shown := Text.string (Text.quoted value)
    s!"{name} must be a logging level name, got {shown}"
  | .noSnapshot label =>
    let shown := Text.string (Text.quoted label)
    s!"No snapshot labelled {shown}"
  | .kitty error => error.message
  | .emptyCommand => "Command must not be empty"
  | .notStarted => "Terminal is not started"
  | .noProgram => "Process is not running"
  | .stillRunning => "Command did not exit within timeout"
  | .listing .noIdentifier => "id"
  | .listing .notNumeric => "cannot convert float NaN to integer"
  | .listing _ => "malformed listing"
  | .beyondDoubles => "number beyond all doubles"
  | .attemptsExhausted => "no attempts left"
  | .file .nulInPath => "embedded null byte"
  | .file _ => "file error"
  | .undecodable => "undecodable bytes"
  | .notJson => "not a JSON document"
  | .schema => "schema not satisfied"
  | .tooDeep => "nested too deeply"
  | .pattern => "malformed pattern"
  | .countTooGreat => "repeated too often"
  | .noEnding => "no exit status"
  | .sizeOutOfRange => "size out of range"
  | .controlForm => "malformed control sequence"
  | .controlPart => "no such part of the screen"

end Fault

end TermPilot
