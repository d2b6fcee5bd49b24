import TermPilot.Json.Reader
import TermPilot.Proofs.Number.Decimal
import TermPilot.Proofs.Recording.Payload

/-!
# Documents that are read can be written

A whole number of too many digits is neither read nor written, and the limit is the same. So every
value of a document that was read can stand in a message.
-/

namespace TermPilot.Json

open Recording (bind_eq_ok)

/-! ## Values that can be written -/

/-- All whole numbers in a value can be written. -/
def IsShowable (value : Json) : Prop := value.unwritable? = none

section Showable

variable {n : Int} {key : Text} {value : Json} {items : List Json} {members : List (Text × Json)}

theorem isShowable_int_iff : IsShowable (.int n) ↔ IsWritable n := by
  rw [IsShowable, unwritable?]
  split_ifs with h
  · exact iff_of_true rfl h
  · exact iff_of_false (fun hnone => by cases hnone) h

theorem unwritableItem?_eq_none_iff :
    unwritableItem? items = none ↔ ∀ item ∈ items, IsShowable item := by
  induction items with
  | nil => simp [unwritableItem?]
  | cons item items ih =>
    rw [unwritableItem?, List.forall_mem_cons, ← ih, IsShowable]
    cases item.unwritable? <;> simp

theorem unwritableMember?_eq_none_iff :
    unwritableMember? members = none ↔ ∀ member ∈ members, IsShowable member.2 := by
  induction members with
  | nil => simp [unwritableMember?]
  | cons member members ih =>
    rw [unwritableMember?, List.forall_mem_cons, ← ih, IsShowable]
    cases member.2.unwritable? <;> simp

theorem isShowable_arr_iff : IsShowable (.arr items) ↔ ∀ item ∈ items, IsShowable item := by
  rw [← unwritableItem?_eq_none_iff, IsShowable, unwritable?]

theorem isShowable_obj_iff :
    IsShowable (.obj members) ↔ ∀ member ∈ members, IsShowable member.2 := by
  rw [← unwritableMember?_eq_none_iff, IsShowable, unwritable?]

theorem IsShowable.of_find? (h : ∀ member ∈ members, IsShowable member.2)
    (hfind : find? key members = some value) : value.IsShowable := by
  obtain ⟨member, hmember, rfl⟩ := Option.map_eq_some_iff.mp hfind
  exact h member (List.mem_of_find?_eq_some hmember)

theorem isShowable_insert (hvalue : value.IsShowable)
    (h : ∀ member ∈ members, IsShowable member.2) :
    ∀ member ∈ insert key value members, IsShowable member.2 := by
  induction members with
  | nil =>
    rw [insert, List.forall_mem_singleton]
    exact hvalue
  | cons member members ih =>
    obtain ⟨hmember, hmembers⟩ := List.forall_mem_cons.mp h
    rw [insert]
    split
    · exact List.forall_mem_cons.mpr ⟨hvalue, hmembers⟩
    · exact List.forall_mem_cons.mpr ⟨hmember, ih hmembers⟩

end Showable

/-! ## What is read -/

section Reader

variable {value : Json} {rest t : Text}

theorem isDigit_of_mem_cutWhole {c : Char} (h : c ∈ (cutWhole t).1) : c.isDigit = true := by
  unfold cutWhole at h
  split at h
  · rw [List.mem_singleton.mp h]
    rfl
  · exact List.mem_takeWhile_imp h

theorem isShowable_of_readNumber {negative : Bool}
    (h : readNumber negative t = .ok (value, rest)) : value.IsShowable := by
  rw [readNumber] at h
  dsimp only at h
  split at h
  · cases h
  split at h
  · cases h
    rfl
  split at h
  · cases h
    rfl
  split at h
  · next n hplain =>
    cases h
    have hwritable : IsWritable n :=
      Double.isWritable_of_plain (fun c hc => isDigit_of_mem_cutWhole hc) hplain
    rw [isShowable_int_iff]
    cases negative with
    | false => exact hwritable
    | true => rwa [if_pos rfl, IsWritable, Int.natAbs_neg]
  · cases h
  · cases h

theorem isShowable_of_readWord (h : readWord t = some (value, rest)) : value.IsShowable := by
  obtain ⟨⟨word, found⟩, hmem, hfound⟩ := List.exists_of_findSome?_eq_some h
  obtain ⟨_, -, heq⟩ := Option.map_eq_some_iff.mp hfound
  obtain ⟨rfl, -⟩ := Prod.mk.inj heq
  simp only [words, List.mem_cons, Prod.mk.injEq, List.not_mem_nil, or_false] at hmem
  rcases hmem with ⟨-, rfl⟩ | ⟨-, rfl⟩ | ⟨-, rfl⟩ | ⟨-, rfl⟩ | ⟨-, rfl⟩ | ⟨-, rfl⟩ <;> rfl

/-- What the three parts of the reader give with an amount of fuel can be written. -/
structure ReadsShowable (limit fuel : Nat) : Prop where
  value : ∀ depth t v rest, readValue limit depth fuel t = .ok (v, rest) → v.IsShowable
  items : ∀ depth t items rest, readItems limit depth fuel t = .ok (items, rest) →
    ∀ item ∈ items, IsShowable item
  members : ∀ depth before t members rest,
    readMembers limit depth fuel before t = .ok (members, rest) →
      (∀ member ∈ before, IsShowable member.2) → ∀ member ∈ members, IsShowable member.2

variable {limit fuel depth : Nat}

theorem ReadsShowable.readValue_succ (h : ReadsShowable limit fuel)
    (hread : readValue limit depth (fuel + 1) t = .ok (value, rest)) : value.IsShowable := by
  unfold readValue at hread
  split at hread
  · obtain ⟨_, -, heq⟩ := bind_eq_ok.mp hread
    cases heq
    rfl
  · split at hread
    · cases hread
    split at hread
    · cases hread
      exact isShowable_arr_iff.mpr (by simp)
    · obtain ⟨_, hitems, heq⟩ := bind_eq_ok.mp hread
      cases heq
      exact isShowable_arr_iff.mpr (h.items _ _ _ _ hitems)
  · split at hread
    · cases hread
    split at hread
    · cases hread
      exact isShowable_obj_iff.mpr (by simp)
    · obtain ⟨_, hmembers, heq⟩ := bind_eq_ok.mp hread
      cases heq
      exact isShowable_obj_iff.mpr (h.members _ _ _ _ _ hmembers (by simp))
  · split at hread
    · next hword =>
      cases hread
      exact isShowable_of_readWord hword
    · split at hread
      · exact isShowable_of_readNumber hread
      · exact isShowable_of_readNumber hread

theorem ReadsShowable.readItems_succ (h : ReadsShowable limit fuel) {items : List Json}
    (hread : readItems limit depth (fuel + 1) t = .ok (items, rest)) :
    ∀ item ∈ items, IsShowable item := by
  unfold readItems at hread
  obtain ⟨⟨first, later⟩, hfirst, hread⟩ := bind_eq_ok.mp hread
  have hshowable : first.IsShowable := h.value _ _ _ _ hfirst
  dsimp only at hread
  split at hread
  · cases hread
    exact List.forall_mem_singleton.mpr hshowable
  · obtain ⟨_, hitems, heq⟩ := bind_eq_ok.mp hread
    cases heq
    exact List.forall_mem_cons.mpr ⟨hshowable, h.items _ _ _ _ hitems⟩
  · cases hread

theorem ReadsShowable.readMembers_succ (h : ReadsShowable limit fuel)
    {before members : List (Text × Json)}
    (hread : readMembers limit depth (fuel + 1) before t = .ok (members, rest))
    (hbefore : ∀ member ∈ before, IsShowable member.2) :
    ∀ member ∈ members, IsShowable member.2 := by
  unfold readMembers at hread
  split at hread
  · obtain ⟨⟨key, later⟩, -, hread⟩ := bind_eq_ok.mp hread
    dsimp only at hread
    split at hread
    · obtain ⟨⟨found, behind⟩, hvalue, hread⟩ := bind_eq_ok.mp hread
      have hadded : ∀ member ∈ insert key found before, IsShowable member.2 :=
        isShowable_insert (h.value _ _ _ _ hvalue) hbefore
      dsimp only at hread
      split at hread
      · cases hread
        exact hadded
      · exact h.members _ _ _ _ _ hread hadded
      · cases hread
    · cases hread
  · cases hread

theorem readsShowable (limit fuel : Nat) : ReadsShowable limit fuel := by
  induction fuel with
  | zero =>
    refine ⟨?_, ?_, ?_⟩
    · intro depth t v rest hread
      cases hread
    · intro depth t items rest hread
      cases hread
    · intro depth before t members rest hread
      cases hread
  | succ fuel ih =>
    exact ⟨fun _ _ _ _ => ih.readValue_succ, fun _ _ _ _ => ih.readItems_succ,
      fun _ _ _ _ _ => ih.readMembers_succ⟩

theorem isShowable_of_read (h : read t limit = .ok value) : value.IsShowable := by
  obtain ⟨⟨found, later⟩, hvalue, h⟩ := bind_eq_ok.mp h
  have hshowable := (readsShowable limit _).value _ _ _ _ hvalue
  dsimp only at h
  split at h
  · cases h
    exact hshowable
  · cases h

/-- Every document that is read from bytes can be written. -/
theorem isShowable_of_readBytes {bytes : List UInt8} (h : readBytes bytes limit = .ok value) :
    value.IsShowable := by
  unfold readBytes readUtf8 at h
  split at h
  · split at h
    · cases h
    · exact isShowable_of_read h
  · split at h
    · cases h
    · exact isShowable_of_read h
  · split at h
    · cases h
    · split at h
      · exact isShowable_of_read h
      · cases h

end Reader

end TermPilot.Json
