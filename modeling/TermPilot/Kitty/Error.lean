import TermPilot.Text.Basic

/-!
# Errors of kitty windows

Why a window of the kitty terminal could not be started or controlled.
-/

namespace TermPilot

/-- Why a listing of windows could not be read. -/
inductive ListingError where
  /-- Something that has no parts stands where a list belongs. -/
  | notAList
  /-- Something that has no members stands where an operating system window or a tab belongs. -/
  | notAnObject
  /-- Something that has no members stands where a window belongs. -/
  | notAWindow
  /-- A window has no identifier. -/
  | noIdentifier
  /-- An identifier that was to be written as a number is none. -/
  | notANumber
  /-- An identifier that was to be written as a whole number is infinite. -/
  | infinite
  /-- An identifier that was to be written as a whole number is NaN. -/
  | notNumeric
deriving Repr, DecidableEq

/-- Why kitty did not do what it was asked. -/
inductive KittyError where
  /-- The program could not be started as a terminal; the system says why. -/
  | notLaunched (reason : Text)
  /-- The program could not be started as a remote control; the system says why. -/
  | notRun (reason : Text)
  /-- The program was started for an action and reported that it failed. -/
  | failed (action : String) (output errors : Text)
  /-- No window answered at an address. -/
  | notReachable (address : Text)
  /-- What should have been a listing is no JSON document. -/
  | notAListing
deriving Repr, DecidableEq

/-- The message for an error. -/
def KittyError.message : KittyError → String
  | .notLaunched reason =>
    let shown := Text.string reason
    s!"Failed to launch kitty: {shown}"
  | .notRun reason =>
    let shown := Text.string reason
    s!"Failed to run kitty: {shown}"
  | .failed action output errors =>
    let out := Text.string output
    let err := Text.string errors
    s!"kitty {action} failed: stdout: {out} stderr: {err}"
  | .notReachable address =>
    let shown := Text.string address
    s!"kitty remote control not reachable or window not found at {shown}"
  | .notAListing => "kitty ls returned invalid JSON"

end TermPilot
