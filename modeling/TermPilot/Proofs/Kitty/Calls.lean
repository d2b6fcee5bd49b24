import TermPilot.Kitty.Window
import TermPilot.Proofs.Kitty.Listing
import TermPilot.Proofs.Terminal.Script

/-!
# Calls of kitty

Kitty is controlled by running it, and what it answers is not known: each call may end with any
status and any output. Nor is it known how deeply documents may be nested and what the log does with
a record whose message cannot be made. What happens is kept as a history, the earliest first.
-/

namespace TermPilot.Kitty

/-! ## Histories -/

/-- Something that happens while kitty is controlled. -/
inductive Event where
  | ran (call : ProgramCall)
  | slept (seconds : Float)
  | logged (record : LogRecord)
  | unmade (level : Int) (fault : Fault)

/-- The program that was run, if one was. -/
def Event.call? : Event → Option ProgramCall
  | .ran call => some call
  | _ => none

/-- The programs that were run, in order. -/
def calls (history : List Event) : List ProgramCall := history.filterMap Event.call?

theorem calls_append (past new : List Event) : calls (past ++ new) = calls past ++ calls new :=
  List.filterMap_append

/-- A host on which all programs can be started. What they leave is given by how many were run
before. For a record whose message cannot be made, the log fails as `raised` says, if it fails. -/
def hostOf (results : Nat → ProgramResult) (depth : Nat) (raised : Fault → Option Fault) :
    Host (List Event) where
  run := fun call => modifyGet fun past =>
    (.ok (results (calls past).length), past ++ [.ran call])
  sleep := fun seconds => modify (· ++ [.slept seconds])
  log := fun record => modify (· ++ [.logged record])
  logUnmade := fun level fault => do
    modify (· ++ [.unmade level fault])
    match raised fault with
    | some error => throw error
    | none => return ()
  changeFiles := fun _ => return ()
  depth := depth

/-- What the programs will leave that are run after a history. -/
def upcoming (results : Nat → ProgramResult) (past : List Event) (k : Nat) : ProgramResult :=
  results ((calls past).length + k)

/-- The call of a remote control that is given no input. -/
def remoteCall (address : Text) (arguments : List Text) : ProgramCall :=
  { words := ["kitty", "@", "--to"].map String.toList ++ address :: arguments }

/-- The call that has the windows listed. -/
def listCall (address : Text) : ProgramCall := remoteCall address ["ls".toList]

section Runs

variable {results : Nat → ProgramResult} {depth : Nat} {raised : Fault → Option Fault}
  {past : List Event}

theorem upcoming_append (new : List Event) (k : Nat) :
    upcoming results (past ++ new) k = upcoming results past ((calls new).length + k) := by
  rw [upcoming, upcoming, calls_append, List.length_append, Nat.add_assoc]

theorem depth_hostOf : (hostOf results depth raised).depth = depth := rfl

theorem run_remote (address : Text) (arguments : List Text) :
    (remote (hostOf results depth raised) address arguments none).run.run past =
      (.ok (upcoming results past 0), past ++ [.ran (remoteCall address arguments)]) := rfl

theorem run_sleep (seconds : Float) :
    ((hostOf results depth raised).sleep seconds).run.run past =
      (.ok (), past ++ [.slept seconds]) := rfl

theorem run_log (record : LogRecord) :
    ((hostOf results depth raised).log record).run.run past =
      (.ok (), past ++ [.logged record]) := rfl

theorem run_logUnmade_of_none {level : Int} {fault : Fault} (h : raised fault = none) :
    ((hostOf results depth raised).logUnmade level fault).run.run past =
      (.ok (), past ++ [.unmade level fault]) := by
  simp only [hostOf, h]
  rfl

theorem run_logUnmade_of_some {level : Int} {fault error : Fault} (h : raised fault = some error) :
    ((hostOf results depth raised).logUnmade level fault).run.run past =
      (.error error, past ++ [.unmade level fault]) := by
  simp only [hostOf, h]
  rfl

end Runs

/-! ## Answers -/

theorem succeeded_iff {result : ProgramResult} : result.succeeded = true ↔ result.status = 0 :=
  decide_eq_true_iff

/-- The result of having the windows listed shows these identifiers, and at least one. -/
structure Shows (depth : Nat) (result : ProgramResult) (ids : List Json) : Prop where
  status : result.status = 0
  listing : ∃ listing, Json.readBytes result.output depth = .ok listing ∧ IsListing listing ids
  nonempty : ids ≠ []

theorem Shows.unique {depth : Nat} {result : ProgramResult} {ids others : List Json}
    (h : Shows depth result ids) (hother : Shows depth result others) : ids = others := by
  obtain ⟨listing, hread, hlisting⟩ := h.listing
  obtain ⟨other, hreadOther, hlistingOther⟩ := hother.listing
  obtain rfl : listing = other := Except.ok.inj (hread.symm.trans hreadOther)
  exact hlisting.unique hlistingOther

end TermPilot.Kitty
