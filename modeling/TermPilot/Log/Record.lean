/-!
# Log records

What the library tells about its work: a message, how grave it is, and which part of the library
it comes from.
-/

namespace TermPilot

/-- One message of the log. -/
structure LogRecord where
  /-- How grave the message is; greater is graver. -/
  level : Int
  /-- The part of the library that the message comes from. -/
  source : String
  /-- The message. -/
  message : String
deriving Repr, DecidableEq

namespace LogRecord

/-- The level of messages for someone who looks for a fault. -/
def debugLevel : Int := 10

/-- A message for someone who looks for a fault. -/
def debug (source message : String) : LogRecord := ⟨debugLevel, source, message⟩

/-- A message about the normal course of things. -/
def info (source message : String) : LogRecord := ⟨20, source, message⟩

/-- A message about something unexpected. -/
def warning (source message : String) : LogRecord := ⟨30, source, message⟩

end LogRecord

end TermPilot
