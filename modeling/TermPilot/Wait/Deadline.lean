import TermPilot.Number.Decimal

/-!
# Deadlines

Work that is given up when it has not ended after a number of seconds.
-/

namespace TermPilot

/-- How work ends, if it ends. -/
inductive Work (ε α : Type) where
  /-- It gives a value. -/
  | returns (value : α)
  /-- It fails. -/
  | fails (error : ε)
  /-- It goes on forever. -/
  | blocks

/-- Why there is no value at the deadline. -/
inductive DeadlineError (ε : Type) where
  /-- The work failed. -/
  | failed (error : ε)
  /-- The work had not ended after the given seconds. -/
  | timedOut (timeout : Float)
  /-- The seconds are too many for a clock that counts nanoseconds in 63 bits. -/
  | uncountable

/-- Whether a clock that counts nanoseconds in 63 bits can count a number of seconds. -/
def isCountable (seconds : Float) : Bool := seconds * 1e9 < (Nat.pow 2 63).toFloat

/-- The outcome of work at its deadline. -/
def Work.within {ε α : Type} (timeout : Float) (work : Work ε α) : Except (DeadlineError ε) α :=
  if !isCountable timeout then .error .uncountable
  else match work with
    | .returns value => .ok value
    | .fails error => .error (.failed error)
    | .blocks => .error (.timedOut timeout)

/-- The message for work that had not ended. -/
def Work.timeoutMessage (timeout : Float) : String := s!"Timed out after {Double.fixed 2 timeout}s"

end TermPilot
