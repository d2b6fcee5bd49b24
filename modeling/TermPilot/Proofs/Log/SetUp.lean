import Mathlib.Tactic.SplitIfs
import TermPilot.Log.Journal

/-!
# Setting up a journal

A journal that is set up has the targets that were asked for: the console and then the file, all
with the level of the journal, whatever was set up before. A set-up that fails should leave level
and targets alone. With an unknown level it does, as the level is looked up first. With a file that
cannot be made it does not: level and targets are set by then, and what they were before is lost.
-/

namespace TermPilot.Journal

/-- The targets that are asked for. -/
def asked (console : Bool) (file : Option Path) (level : Int) : List LogHandler :=
  (if console then [⟨.console, level⟩] else []) ++ (file.map fun path => ⟨.file path, level⟩).toList

/-- Level and targets are the same in both journals. -/
structure SameSettings (j after : Journal) : Prop where
  level : after.level = j.level
  handlers : after.handlers = j.handlers

section SetUp

variable {j after : Journal} {choice : LevelChoice} {console : Bool} {file : Option Path}
  {fault : Fault} {level : Int} {path : Path} {files : FileStore}

theorem setUp_of_error (h : numberOf choice = .error fault) :
    j.setUp choice console file = (j, .error fault) := by
  rw [setUp, h]

theorem setUp_none (h : numberOf choice = .ok level) :
    j.setUp choice console none =
      ({ j with level, handlers := asked console none level }, .ok ()) := by
  simp [setUp, h, asked]

theorem setUp_some_of_error {error : FileError} (h : numberOf choice = .ok level)
    (hfile : openFile j.files path = (files, .error error)) :
    j.setUp choice console (some path) =
      ({ j with level, files, handlers := asked console none level }, .error (.file error)) := by
  simp [setUp, h, hfile, asked]

theorem setUp_some_of_ok (h : numberOf choice = .ok level)
    (hfile : openFile j.files path = (files, .ok ())) :
    j.setUp choice console (some path) =
      ({ j with level, files, handlers := asked console (some path) level }, .ok ()) := by
  simp [setUp, h, hfile, asked]

/-- What a set-up does: it looks the level up, sets level and console, and makes the file. -/
theorem setUp_cases (j : Journal) (choice : LevelChoice) (console : Bool) (file : Option Path) :
    (∃ fault, numberOf choice = .error fault ∧
      j.setUp choice console file = (j, .error fault)) ∨
    ∃ level, numberOf choice = .ok level ∧
      ((∃ path files error, file = some path ∧ openFile j.files path = (files, .error error) ∧
        j.setUp choice console file =
          ({ j with level, files, handlers := asked console none level }, .error (.file error))) ∨
      ∃ files, j.setUp choice console file =
        ({ j with level, files, handlers := asked console file level }, .ok ())) := by
  cases hlevel : numberOf choice with
  | error fault => exact .inl ⟨fault, rfl, setUp_of_error hlevel⟩
  | ok level =>
    refine .inr ⟨level, rfl, ?_⟩
    cases file with
    | none => exact .inr ⟨j.files, setUp_none hlevel⟩
    | some path =>
      rcases hfile : openFile j.files path with ⟨files, error | _⟩
      · exact .inl ⟨path, files, error, rfl, hfile, setUp_some_of_error hlevel hfile⟩
      · exact .inr ⟨files, setUp_some_of_ok hlevel hfile⟩

theorem handlers_of_setUp (h : j.setUp choice console file = (after, .ok ())) :
    numberOf choice = .ok after.level ∧ after.handlers = asked console file after.level := by
  rcases j.setUp_cases choice console file with
    ⟨unknown, -, hset⟩ | ⟨level, hlevel, ⟨path, files, error, -, -, hset⟩ | ⟨files, hset⟩⟩
  · rw [hset] at h
    cases h
  · rw [hset] at h
    cases h
  · rw [hset] at h
    cases h
    exact ⟨hlevel, rfl⟩

/-- A set-up that fails has done nothing, or all but the file. -/
theorem handlers_of_setUp_error (h : j.setUp choice console file = (after, .error fault)) :
    numberOf choice = .error fault ∧ after = j ∨
      numberOf choice = .ok after.level ∧ after.handlers = asked console none after.level := by
  rcases j.setUp_cases choice console file with
    ⟨unknown, hlevel, hset⟩ | ⟨level, hlevel, ⟨path, files, error, -, -, hset⟩ | ⟨files, hset⟩⟩
  · rw [hset] at h
    cases h
    exact .inl ⟨hlevel, rfl⟩
  · rw [hset] at h
    cases h
    exact .inr ⟨hlevel, rfl⟩
  · rw [hset] at h
    cases h

theorem sameSettings_setUp_error_iff (h : j.setUp choice console file = (after, .error fault)) :
    j.SameSettings after ↔ numberOf choice = .error fault ∨
      numberOf choice = .ok j.level ∧ j.handlers = asked console none j.level := by
  rcases handlers_of_setUp_error h with ⟨hunknown, rfl⟩ | ⟨hlevel, hhandlers⟩
  · exact iff_of_true ⟨rfl, rfl⟩ (.inl hunknown)
  · constructor
    · intro hsame
      rw [hsame.level] at hlevel
      rw [hsame.level, hsame.handlers] at hhandlers
      exact .inr ⟨hlevel, hhandlers⟩
    · rintro (hunknown | ⟨hknown, hbefore⟩)
      · rw [hlevel] at hunknown
        cases hunknown
      · have hsame : after.level = j.level := Except.ok.inj (hlevel.symm.trans hknown)
        rw [hsame, ← hbefore] at hhandlers
        exact ⟨hsame, hhandlers⟩

/-- A set-up that goes through leaves what was asked for and nothing else. One that fails keeps the
settings if it is for the level, and else only where they were the ones it had made by then. -/
theorem setUp_settings (j : Journal) (choice : LevelChoice) (console : Bool) (file : Option Path) :
    (∀ after, j.setUp choice console file = (after, .ok ()) →
      numberOf choice = .ok after.level ∧ after.handlers = asked console file after.level) ∧
    ∀ after fault, j.setUp choice console file = (after, .error fault) →
      (j.SameSettings after ↔ numberOf choice = .error fault ∨
        numberOf choice = .ok j.level ∧ j.handlers = asked console none j.level) := by
  constructor
  · intro after h
    exact handlers_of_setUp h
  · intro after fault h
    exact sameSettings_setUp_error_iff h

/-- A journal that writes to a file. -/
def kept : Journal where
  name := "app".toList
  level := 20
  handlers := asked false (some (Path.ofText "one.log".toList)) 20
  files := { home := Path.ofText "/home".toList, nodes := [(["one.log".toList], .file [])] }

theorem kept_settings :
    (∃ after, kept.setUp (.name "debug".toList) true none = (after, .ok ()) ∧
      after.handlers = [⟨.console, 10⟩]) ∧
    ∃ after, kept.setUp (.name "chatty".toList) true none =
      (after, .error (.unknownLogLevel "chatty".toList)) ∧ kept.SameSettings after := by
  constructor
  · obtain ⟨-, hhandlers⟩ := (kept.setUp_settings (.name "debug".toList) true none).1 _ rfl
    exact ⟨_, rfl, hhandlers⟩
  · have hsame := (kept.setUp_settings (.name "chatty".toList) true none).2 _ _ rfl
    exact ⟨_, rfl, hsame.mpr (.inl rfl)⟩

/-- With a file in the way of the directory of the new one, a set-up takes the old one away. -/
theorem not_sameSettings_of_fault :
    ¬ ∀ (j : Journal) (choice : LevelChoice) (console : Bool) (file : Option Path)
      (after : Journal) (fault : Fault),
      j.setUp choice console file = (after, .error fault) → j.SameSettings after := by
  intro hall
  have hsame := hall kept (.name "error".toList) false (some (Path.ofText "one.log/x.log".toList)) _
    (.file .alreadyExists) rfl
  exact absurd hsame.level (by decide)

end SetUp

/-! ## Runs -/

/-- What is done with a journal. -/
inductive Call where
  | setUp (choice : LevelChoice) (console : Bool) (file : Option Path)
  | emit (time source : Text) (level : Int) (message : Text)

def Call.perform (j : Journal) : Call → Journal
  | .setUp choice console file => (j.setUp choice console file).1
  | .emit time source level message => j.emit time source level message

/-- The journal after calls, those that failed among them. -/
def after (j : Journal) (calls : List Call) : Journal := calls.foldl Call.perform j

/-- The targets are some that can be asked for, at the level of the journal. -/
def IsAsked (j : Journal) : Prop := ∃ console file, j.handlers = asked console file j.level

section Runs

variable {j k l : Journal}

theorem SameSettings.refl (j : Journal) : j.SameSettings j := ⟨rfl, rfl⟩

theorem SameSettings.trans (h : j.SameSettings k) (h' : k.SameSettings l) : j.SameSettings l :=
  ⟨h'.level.trans h.level, h'.handlers.trans h.handlers⟩

theorem SameSettings.isAsked (h : j.SameSettings k) (hj : j.IsAsked) : k.IsAsked := by
  obtain ⟨console, file, hhandlers⟩ := hj
  refine ⟨console, file, ?_⟩
  rw [h.handlers, h.level, hhandlers]

theorem sameSettings_deliver (j : Journal) (written : Text) (target : LogTarget) :
    j.SameSettings (j.deliver written target) := by
  cases target with
  | console => exact ⟨rfl, rfl⟩
  | file path =>
    rw [deliver]
    split
    · exact ⟨rfl, rfl⟩
    · exact .refl j

theorem sameSettings_lastResort (j : Journal) (level : Int) (message : Text) :
    j.SameSettings (j.lastResort level message) := by
  rw [lastResort]
  split
  · exact .refl j
  · exact ⟨rfl, rfl⟩

theorem sameSettings_foldl_deliver (handlers : List LogHandler) (j : Journal) (written : Text) :
    j.SameSettings (handlers.foldl (fun j h => j.deliver written h.target) j) := by
  induction handlers generalizing j with
  | nil => exact .refl j
  | cons h handlers ih => exact (j.sameSettings_deliver written h.target).trans (ih _)

theorem sameSettings_emit (j : Journal) (time source : Text) (level : Int) (message : Text) :
    j.SameSettings (j.emit time source level message) := by
  rw [emit]
  split_ifs
  · exact j.sameSettings_lastResort level message
  · exact .refl j
  · exact j.sameSettings_lastResort level message
  · exact sameSettings_foldl_deliver _ j _

theorem IsAsked.perform (h : j.IsAsked) (call : Call) : (call.perform j).IsAsked := by
  cases call with
  | emit time source level message =>
    exact (j.sameSettings_emit time source level message).isAsked h
  | setUp choice console file =>
    rw [Call.perform]
    rcases hset : j.setUp choice console file with ⟨after, fault | _⟩
    · rcases handlers_of_setUp_error hset with ⟨-, rfl⟩ | ⟨-, hhandlers⟩
      · exact h
      · exact ⟨console, none, hhandlers⟩
    · exact ⟨console, file, (handlers_of_setUp hset).2⟩

theorem IsAsked.after (h : j.IsAsked) (calls : List Call) : (j.after calls).IsAsked := by
  induction calls generalizing j with
  | nil => exact h
  | cons call calls ih => exact ih (h.perform call)

/-- Whatever is done with a journal that had no targets, it writes to nothing but the console and
then one file, and each of them gets what the journal gets. -/
theorem isAsked_after (h : j.handlers = []) (calls : List Call) : (j.after calls).IsAsked :=
  IsAsked.after ⟨false, none, h⟩ calls

end Runs

end TermPilot.Journal
