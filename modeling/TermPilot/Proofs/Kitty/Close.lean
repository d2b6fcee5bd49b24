import TermPilot.Proofs.Kitty.Calls

/-!
# Closing a session

A session is closed by closing all windows that kitty lists for it, or the window that it was
started with if none are listed. What stands in the way is a list of windows that is read as a
document but is no listing; an own window whose identifier cannot be written; and, with a log that
fails for records whose messages cannot be made, a window that kitty does not close and whose
identifier is no number.
-/

namespace TermPilot.Kitty

/-- The call that has a window closed. -/
def closeCall (address : Text) (id : Json) : ProgramCall :=
  remoteCall address
    ["close-window".toList, "--match".toList, "id:".toList ++ id.inMessage .square]

/-- The windows to close, by the result of having the windows listed. -/
inductive IsTargets (depth : Nat) (result : ProgramResult) (own : Json) : List Json → Prop where
  | listed {ids : List Json} : Shows depth result ids → IsTargets depth result own ids
  | own : (∀ ids, ¬ Shows depth result ids) → IsTargets depth result own [own]

/-- If the windows are listed at all, the output is not nested too deeply, and a document in it is a
listing. -/
def IsReadable (depth : Nat) (result : ProgramResult) : Prop :=
  result.status = 0 → Json.readBytes result.output depth ≠ .error .tooDeep ∧
    ∀ document, Json.readBytes result.output depth = .ok document →
      ∃ ids, IsListing document ids

/-- A window was closed, or the log does not fail when it is told that it was not. -/
def IsTellable (raised : Fault → Option Fault) (result : ProgramResult) (id : Json) : Prop :=
  result.status = 0 ∨ ∀ error, Window.number id = .error error → raised (.listing error) = none

section Targets

variable {depth : Nat} {result : ProgramResult} {own : Json} {ids others : List Json}

theorem exists_isTargets (depth : Nat) (result : ProgramResult) (own : Json) :
    ∃ ids, IsTargets depth result own ids := by
  by_cases h : ∃ ids, Shows depth result ids
  · obtain ⟨ids, hids⟩ := h
    exact ⟨ids, .listed hids⟩
  · exact ⟨[own], .own (not_exists.mp h)⟩

theorem IsTargets.unique (h : IsTargets depth result own ids)
    (hother : IsTargets depth result own others) : ids = others := by
  cases h with
  | listed hshows =>
    cases hother with
    | listed hshowsOther => exact hshows.unique hshowsOther
    | own hnone => exact absurd hshows (hnone ids)
  | own hnone =>
    cases hother with
    | listed hshows => exact absurd hshows (hnone others)
    | own => rfl

theorem Shows.isShowable (h : Shows depth result ids) : ∀ id ∈ ids, id.IsShowable := by
  obtain ⟨listing, hread, hlisting⟩ := h.listing
  exact hlisting.isShowable (Json.isShowable_of_readBytes hread)

/-- Targets can be written if the own window can, where it is one of them. -/
theorem IsTargets.isShowable_iff (h : IsTargets depth result own ids) :
    (∀ id ∈ ids, id.IsShowable) ↔ (∀ ids, ¬ Shows depth result ids) → own.IsShowable := by
  cases h with
  | listed hshows => exact iff_of_true hshows.isShowable fun hnone => absurd hshows (hnone ids)
  | own hnone =>
    rw [List.forall_mem_singleton]
    exact ⟨fun hown _ => hown, fun hown => hown hnone⟩

theorem selecting_of_isShowable {id : Json} (h : id.IsShowable) :
    selecting id = .ok ["--match".toList, "id:".toList ++ id.inMessage .square] := by
  rw [selecting, Json.written, h]
  rfl

theorem selecting_of_not_isShowable {id : Json} (h : ¬ id.IsShowable) :
    ∃ fault, selecting id = .error fault := by
  obtain ⟨number, hnumber⟩ := Option.ne_none_iff_exists'.mp h
  rw [selecting, Json.written, hnumber]
  exact ⟨.unwritable number, rfl⟩

end Targets

namespace Window

variable {results : Nat → ProgramResult} (depth : Nat) (raised : Fault → Option Fault) (w : Window)
  {past : List Event}

/-! ## What is listed -/

section List

theorem run_list_of_failed (h : (upcoming results past 0).status ≠ 0) :
    ∃ error, (w.list (hostOf results depth raised)).run.run past =
      (.error (.kitty error), past ++ [.ran (listCall w.address)]) := by
  have hfailed : ¬ (upcoming results past 0).succeeded = true := mt succeeded_iff.mp h
  rw [list, Act.run_bind_of_ok (run_remote w.address _), expectSuccess, if_neg hfailed]
  exact ⟨_, rfl⟩

theorem run_list_of_succeeded (h : (upcoming results past 0).status = 0) :
    (w.list (hostOf results depth raised)).run.run past =
      ((match Json.readBytes (upcoming results past 0).output depth with
        | .ok listing => .ok listing
        | .error .tooDeep => .error .tooDeep
        | .error _ => .error (.kitty .notAListing)), past ++ [.ran (listCall w.address)]) := by
  have hsucceeded : (upcoming results past 0).succeeded = true := succeeded_iff.mpr h
  rw [list, Act.run_bind_of_ok (run_remote w.address _), expectSuccess, if_pos hsucceeded,
    Act.run_bind_of_ok (Act.run_settle _ _), depth_hostOf]
  cases Json.readBytes (upcoming results past 0).output depth with
  | ok listing => rfl
  | error error => cases error <;> rfl

theorem run_identifiers {outcome : Except Fault Json} {later : List Event}
    (h : (w.list (hostOf results depth raised)).run.run past = (outcome, later)) :
    (w.identifiers (hostOf results depth raised)).run.run past =
      ((match outcome with
        | .ok listing => (windowIds listing).mapError Fault.listing
        | .error (.kitty _) => .ok []
        | .error fault => .error fault), later) := by
  have hobserve : (Act.observe (w.list (hostOf results depth raised))).run.run past =
      (.ok outcome, later) := by
    rw [Act.run_observe, h]
  rw [identifiers, Act.run_bind_of_ok hobserve]
  match outcome with
  | .ok listing => exact Act.run_settle _ _
  | .error fault => cases fault <;> rfl

theorem run_identifiers_of_shows {ids : List Json} (h : Shows depth (upcoming results past 0) ids) :
    (w.identifiers (hostOf results depth raised)).run.run past =
      (.ok ids, past ++ [.ran (listCall w.address)]) := by
  obtain ⟨listing, hread, hlisting⟩ := h.listing
  have hrun := run_list_of_succeeded depth raised w h.status
  rw [hread] at hrun
  rw [run_identifiers depth raised w hrun]
  dsimp only
  rw [windowIds_eq_ok_iff.mpr hlisting]
  rfl

theorem run_identifiers_of_isReadable (hread : IsReadable depth (upcoming results past 0))
    (hnone : ∀ ids, ¬ Shows depth (upcoming results past 0) ids) :
    (w.identifiers (hostOf results depth raised)).run.run past =
      (.ok [], past ++ [.ran (listCall w.address)]) := by
  by_cases hstatus : (upcoming results past 0).status = 0
  · have hrun := run_list_of_succeeded depth raised w hstatus
    obtain ⟨hshallow, hlistings⟩ := hread hstatus
    rcases houtput : Json.readBytes (upcoming results past 0).output depth with error | listing
    · rw [houtput] at hrun hshallow
      rw [run_identifiers depth raised w hrun]
      cases error with
      | tooDeep => exact absurd rfl hshallow
      | malformed | numeralTooLong | undecodable => rfl
    · obtain ⟨ids, hids⟩ := hlistings listing houtput
      obtain rfl : ids = [] := by
        by_contra hne
        exact hnone ids ⟨hstatus, ⟨listing, houtput, hids⟩, hne⟩
      rw [houtput] at hrun
      rw [run_identifiers depth raised w hrun]
      dsimp only
      rw [windowIds_eq_ok_iff.mpr hids]
      rfl
  · obtain ⟨error, hrun⟩ := run_list_of_failed depth raised w hstatus
    rw [run_identifiers depth raised w hrun]

/-- A document that is no listing is no reason to close only the own window: it is an error. -/
theorem run_identifiers_of_not_isReadable (h : ¬ IsReadable depth (upcoming results past 0)) :
    ∃ fault, (w.identifiers (hostOf results depth raised)).run.run past =
      (.error fault, past ++ [.ran (listCall w.address)]) := by
  rw [IsReadable, Classical.not_imp, not_and_or, not_not] at h
  obtain ⟨hstatus, h⟩ := h
  have hrun := run_list_of_succeeded depth raised w hstatus
  rcases h with hdeep | hdocument
  · rw [hdeep] at hrun
    exact ⟨.tooDeep, run_identifiers depth raised w hrun⟩
  · push Not at hdocument
    obtain ⟨document, hread, hno⟩ := hdocument
    rw [hread] at hrun
    have hids := run_identifiers depth raised w hrun
    rcases hwindows : windowIds document with error | ids
    · rw [hids]
      dsimp only
      rw [hwindows]
      exact ⟨.listing error, rfl⟩
    · exact absurd (windowIds_eq_ok_iff.mp hwindows) (hno ids)

end List

/-! ## What is closed -/

section Closing

variable {raised} {id : Json} {ids : List Json}

theorem run_logRefusal (results : Nat → ProgramResult) (status : Int) (past : List Event)
    (h : ∀ error, number id = .error error → raised (.listing error) = none) :
    ∃ new, (logRefusal (hostOf results depth raised) id status).run.run past =
      (.ok (), past ++ new) ∧ calls new = [] := by
  rw [logRefusal]
  rcases hid : number id with error | n
  · exact ⟨[.unmade _ _], run_logUnmade_of_none (h error hid), rfl⟩
  · exact ⟨[.logged _], run_log _, rfl⟩

theorem run_logRefusal_of_error {status : Int} {error : ListingError} {fault : Fault}
    (hid : number id = .error error) (hraised : raised (.listing error) = some fault) :
    ((logRefusal (hostOf results depth raised) id status).run.run past).1 = .error fault := by
  rw [logRefusal, hid]
  exact congrArg Prod.fst (run_logUnmade_of_some hraised)

/-- A window whose identifier can be written is closed by one call. The log is told after it. -/
theorem run_closeOne_of_isShowable (h : id.IsShowable) :
    (w.closeOne (hostOf results depth raised) id).run.run past =
      if (upcoming results past 0).status = 0 then
        (.ok (), past ++ [.ran (closeCall w.address id)])
      else (logRefusal (hostOf results depth raised) id (upcoming results past 0).status).run.run
        (past ++ [.ran (closeCall w.address id)]) := by
  rw [closeOne, selecting_of_isShowable h, Act.run_bind_of_ok (Act.run_settle _ _),
    Act.run_bind_of_ok (run_remote w.address _)]
  by_cases hstatus : (upcoming results past 0).status = 0
  · rw [if_pos hstatus, succeeded_iff.mpr hstatus]
    rfl
  · rw [if_neg hstatus, Bool.eq_false_iff.mpr (mt succeeded_iff.mp hstatus)]
    rfl

theorem run_closeOne (hid : id.IsShowable) (h : IsTellable raised (upcoming results past 0) id) :
    ∃ new, (w.closeOne (hostOf results depth raised) id).run.run past = (.ok (), past ++ new) ∧
      calls new = [closeCall w.address id] := by
  rw [run_closeOne_of_isShowable depth w hid]
  by_cases hstatus : (upcoming results past 0).status = 0
  · rw [if_pos hstatus]
    exact ⟨[.ran (closeCall w.address id)], rfl, rfl⟩
  · obtain ⟨new, hrun, hcalls⟩ := run_logRefusal depth results (upcoming results past 0).status
      (past ++ [.ran (closeCall w.address id)]) (h.resolve_left hstatus)
    rw [if_neg hstatus, hrun]
    refine ⟨.ran (closeCall w.address id) :: new, ?_, ?_⟩
    · rw [List.append_assoc, List.singleton_append]
    · rw [← List.singleton_append, calls_append, hcalls]
      rfl

/-- Closing a window fails if its identifier cannot be written or the log fails over it. -/
theorem run_closeOne_of_not
    (h : ¬ (id.IsShowable ∧ IsTellable raised (upcoming results past 0) id)) :
    ∃ fault, ((w.closeOne (hostOf results depth raised) id).run.run past).1 = .error fault := by
  by_cases hid : id.IsShowable
  · rw [run_closeOne_of_isShowable depth w hid]
    obtain ⟨hstatus, htold⟩ := not_or.mp (not_and.mp h hid)
    push Not at htold
    obtain ⟨error, hnumber, hraised⟩ := htold
    obtain ⟨fault, hfault⟩ := Option.ne_none_iff_exists'.mp hraised
    rw [if_neg hstatus]
    exact ⟨fault, run_logRefusal_of_error depth hnumber hfault⟩
  · obtain ⟨fault, hfault⟩ := selecting_of_not_isShowable hid
    rw [closeOne, hfault, Act.run_bind_of_error (Act.run_settle _ _)]
    exact ⟨fault, rfl⟩

theorem run_forM_closeOne (hids : ∀ id ∈ ids, id.IsShowable)
    (h : ∀ i id, ids[i]? = some id → IsTellable raised (upcoming results past i) id) :
    ∃ new, (ids.forM (w.closeOne (hostOf results depth raised))).run.run past =
        (.ok (), past ++ new) ∧
      calls new = ids.map (closeCall w.address) := by
  induction ids generalizing past with
  | nil => exact ⟨[], by rw [List.append_nil]; rfl, rfl⟩
  | cons first rest ih =>
    obtain ⟨hfirst, hrest⟩ := List.forall_mem_cons.mp hids
    obtain ⟨new, hrun, hcalls⟩ := run_closeOne depth w hfirst (h 0 first rfl)
    -- The next result belongs to the next window, since closing one window is one call.
    have hnext : ∀ i id, rest[i]? = some id →
        IsTellable raised (upcoming results (past ++ new) i) id := by
      intro i id hid
      rw [upcoming_append, hcalls, List.length_singleton, Nat.add_comm]
      exact h (i + 1) id hid
    obtain ⟨later, hlater, hmore⟩ := ih hrest hnext
    refine ⟨new ++ later, ?_, ?_⟩
    · show (w.closeOne (hostOf results depth raised) first >>= fun _ =>
        rest.forM (w.closeOne (hostOf results depth raised))).run.run past = _
      rw [Act.run_bind_of_ok hrun, hlater, List.append_assoc]
    · rw [calls_append, hcalls, hmore]
      rfl

theorem of_run_forM_closeOne
    (h : ((ids.forM (w.closeOne (hostOf results depth raised))).run.run past).1 = .ok ()) :
    (∀ id ∈ ids, id.IsShowable) ∧
      ∀ i id, ids[i]? = some id → IsTellable raised (upcoming results past i) id := by
  induction ids generalizing past with
  | nil => exact ⟨List.forall_mem_nil _, fun i id hid => nomatch hid⟩
  | cons first rest ih =>
    change ((w.closeOne (hostOf results depth raised) first >>= fun _ =>
      rest.forM (w.closeOne (hostOf results depth raised))).run.run past).1 = .ok () at h
    have hfirst : first.IsShowable ∧ IsTellable raised (upcoming results past 0) first := by
      by_contra hnot
      obtain ⟨fault, hfault⟩ := run_closeOne_of_not depth w hnot
      rw [Act.run_bind_of_error (Prod.ext hfault rfl)] at h
      cases h
    obtain ⟨new, hrun, hcalls⟩ := run_closeOne depth w hfirst.1 hfirst.2
    rw [Act.run_bind_of_ok hrun] at h
    obtain ⟨hrest, hlater⟩ := ih h
    refine ⟨List.forall_mem_cons.mpr ⟨hfirst.1, hrest⟩, fun i id hid => ?_⟩
    match i with
    | 0 =>
      obtain rfl : first = id := Option.some.inj hid
      exact hfirst.2
    | i + 1 =>
      have htold := hlater i id hid
      rw [upcoming_append, hcalls, List.length_singleton, Nat.add_comm] at htold
      exact htold

/-- A session whose windows can be read is closed by closing its targets one after the other. -/
theorem run_close_of_isTargets (hread : IsReadable depth (upcoming results past 0))
    (h : IsTargets depth (upcoming results past 0) w.identifier ids) :
    (w.close (hostOf results depth raised)).run.run past =
      (ids.forM (w.closeOne (hostOf results depth raised))).run.run
        (past ++ [.ran (listCall w.address)]) := by
  cases h with
  | listed hshows =>
    rw [close, Act.run_bind_of_ok (run_identifiers_of_shows depth raised w hshows)]
    obtain ⟨first, rest, rfl⟩ := List.exists_cons_of_ne_nil hshows.nonempty
    rfl
  | own hnone =>
    rw [close, Act.run_bind_of_ok (run_identifiers_of_isReadable depth raised w hread hnone)]
    show _ = (w.closeOne (hostOf results depth raised) w.identifier >>= fun _ => pure ()).run.run _
    rw [bind_pure_unit]

theorem run_close_of_not_isReadable (h : ¬ IsReadable depth (upcoming results past 0)) :
    ∃ fault, (w.close (hostOf results depth raised)).run.run past =
      (.error fault, past ++ [.ran (listCall w.address)]) := by
  obtain ⟨fault, hrun⟩ := run_identifiers_of_not_isReadable depth raised w h
  exact ⟨fault, Act.run_bind_of_error hrun _⟩

end Closing

/-- Closing a session closes exactly its targets and raises nothing, whatever kitty answers, exactly
if a document that is listed is a listing, the own window can be written where none is listed, and
each target is closed or can be told of. -/
theorem close_closes_iff (results : Nat → ProgramResult) (depth : Nat)
    (raised : Fault → Option Fault) (w : Window) (past : List Event) :
    (∃ ids new, IsTargets depth (upcoming results past 0) w.identifier ids ∧
      (w.close (hostOf results depth raised)).run.run past = (.ok (), past ++ new) ∧
      calls new = listCall w.address :: ids.map (closeCall w.address)) ↔
    IsReadable depth (upcoming results past 0) ∧
      ((∀ ids, ¬ Shows depth (upcoming results past 0) ids) → w.identifier.IsShowable) ∧
      ∀ ids, IsTargets depth (upcoming results past 0) w.identifier ids →
        ∀ i id, ids[i]? = some id → IsTellable raised (upcoming results past (i + 1)) id := by
  have hnext (i : Nat) : upcoming results (past ++ [.ran (listCall w.address)]) i =
      upcoming results past (i + 1) := by
    rw [upcoming_append, Nat.add_comm]
    rfl
  constructor
  · rintro ⟨ids, new, htargets, hrun, -⟩
    have hread : IsReadable depth (upcoming results past 0) := by
      by_contra hnot
      obtain ⟨fault, hfault⟩ := run_close_of_not_isReadable depth w hnot
      rw [hfault] at hrun
      cases hrun
    rw [run_close_of_isTargets depth w hread htargets] at hrun
    obtain ⟨hshowable, htellable⟩ := of_run_forM_closeOne depth w (congrArg Prod.fst hrun)
    refine ⟨hread, htargets.isShowable_iff.mp hshowable, fun others hothers i id hid => ?_⟩
    obtain rfl := htargets.unique hothers
    rw [← hnext]
    exact htellable i id hid
  · rintro ⟨hread, hown, htellable⟩
    obtain ⟨ids, htargets⟩ := exists_isTargets depth (upcoming results past 0) w.identifier
    have hall : ∀ i id, ids[i]? = some id →
        IsTellable raised (upcoming results (past ++ [.ran (listCall w.address)]) i) id := by
      intro i id hid
      rw [hnext]
      exact htellable ids htargets i id hid
    obtain ⟨new, hrun, hcalls⟩ := run_forM_closeOne depth w
      (htargets.isShowable_iff.mpr hown) hall
    refine ⟨ids, .ran (listCall w.address) :: new, htargets, ?_, ?_⟩
    · rw [run_close_of_isTargets depth w hread htargets, hrun, ← List.append_cons]
    · rw [← hcalls]
      rfl

/-- Some sessions are not closed: a document that is no listing is an error, also with a log that
never fails. -/
theorem close_not_closes : ¬ ∀ results depth raised (w : Window) past, ∃ ids new,
    IsTargets depth (upcoming results past 0) w.identifier ids ∧
      (w.close (hostOf results depth raised)).run.run past = (.ok (), past ++ new) ∧
      calls new = listCall w.address :: ids.map (closeCall w.address) := by
  intro h
  -- The bytes of the missing value.
  obtain ⟨ids, new, -, hrun, -⟩ := h (fun _ => { output := [0x6E, 0x75, 0x6C, 0x6C] })
    Json.usualDepth (fun _ => none) ⟨[], .int 3⟩ []
  have hfault : ((Window.close (hostOf (fun _ => { output := [0x6E, 0x75, 0x6C, 0x6C] })
      Json.usualDepth fun _ => none) ⟨[], .int 3⟩).run.run []).1 =
        .error (.listing .notAList) := rfl
  rw [hrun] at hfault
  cases hfault

end Window

end TermPilot.Kitty
