/-!
# Ends of programs

A program ends with a status of its own, or a signal ends it.
-/

namespace TermPilot

/-- How a program ended. -/
structure ExitStatus where
  /-- The status that it ended with. -/
  code : Option Int
  /-- The signal that ended it. -/
  signal : Option Int
deriving Repr, DecidableEq

namespace ExitStatus

/-- Whether the program ended with success. -/
def succeeded (status : ExitStatus) : Bool := status.code = some 0 && status.signal.isNone

/-- The end that the system reports as one number, which is negative for a signal. -/
def ofNumber (n : Int) : ExitStatus := if n < 0 then ⟨none, some (-n)⟩ else ⟨some n, none⟩

end ExitStatus

end TermPilot
