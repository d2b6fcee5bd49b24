import Mathlib.Data.List.Forall2
import TermPilot.Kitty.Listing
import TermPilot.Proofs.Json.Reader

/-!
# What listings hold

A listing nests lists of windows in tabs and lists of tabs in operating system windows. It is said
here, without the traversal, which documents are listings and which identifiers they hold, and the
traversal is shown to read exactly these. Of the documents that are no listings those matter most
that it meets something without members in, where an operating system window or a tab belongs: this
is an error of its own.
-/

namespace TermPilot.Kitty

open Recording (bind_eq_ok bind_eq_error)

/-! ## Listings -/

/-- A value is a list of parts that satisfy `P`, and what the parts hold is `found`, joined. An
empty text and an empty object can stand for an empty list. -/
inductive Lists (P : Json → List Json → Prop) : Json → List Json → Prop where
  | items {items : List Json} {founds : List (List Json)} :
      List.Forall₂ P items founds → Lists P (.arr items) founds.flatten
  | emptyText : Lists P (.str []) []
  | emptyObject : Lists P (.obj []) []

/-- A value is an object, and a member of it is such a list; an object without the member holds
nothing. -/
inductive ListsUnder (key : String) (P : Json → List Json → Prop) : Json → List Json → Prop where
  | missing {members : List (Text × Json)} :
      Json.find? key.toList members = none → ListsUnder key P (.obj members) []
  | present {members : List (Text × Json)} {value : Json} {found : List Json} :
      Json.find? key.toList members = some value → Lists P value found →
        ListsUnder key P (.obj members) found

/-- A value is a window, and `found` is its identifier. -/
def IsWindow (value : Json) (found : List Json) : Prop :=
  ∃ identifier, value.get? "id" = some identifier ∧ found = [identifier]

/-- A value is a tab, and `found` are the identifiers of its windows. -/
def IsTab : Json → List Json → Prop := ListsUnder "windows" IsWindow

/-- A value is an operating system window, and `found` are the identifiers of its windows. -/
def IsOsWindow : Json → List Json → Prop := ListsUnder "tabs" IsTab

/-- A value is a listing, and `found` are the identifiers of its windows, in order. -/
def IsListing : Json → List Json → Prop := Lists IsOsWindow

/-! ## Strays -/

/-- A value has no members. -/
def IsStray (value : Json) : Prop := value.members? = none

/-- A value stands where a list of parts that satisfy `P` belongs, and the first of its parts that
does not satisfies `Q`. The parts of a text and of an object are texts, and so are strays. -/
inductive Meets (P : Json → List Json → Prop) (Q : Json → Prop) : Json → Prop where
  | item {before after : List Json} {item : Json} :
      (∀ earlier ∈ before, ∃ found, P earlier found) → Q item →
        Meets P Q (.arr (before ++ item :: after))
  | character {c : Char} {text : Text} : Meets P Q (.str (c :: text))
  | key {member : Text × Json} {members : List (Text × Json)} : Meets P Q (.obj (member :: members))

/-- A value stands where an operating system window belongs, and it or the first of its tabs that is
none is a stray. -/
def HasStrayTab (value : Json) : Prop :=
  IsStray value ∨ ∃ tabs, value.get? "tabs" = some tabs ∧ Meets IsTab IsStray tabs

/-- A value stands where a listing belongs, and what is wrong with it first is a stray. -/
def HasStray : Json → Prop := Meets IsOsWindow HasStrayTab

/-! ## Reading lists -/

section Lists

variable {P : Json → List Json → Prop} {Q : Json → Prop}
  {f : Json → Except ListingError (List Json)}
  {items found : List Json} {value : Json} {error : ListingError}

theorem collect_eq_ok_iff : collect f items = .ok found ↔
    ∃ founds, List.Forall₂ (fun item here => f item = .ok here) items founds ∧
      found = founds.flatten := by
  induction items generalizing found with
  | nil => simp [collect, eq_comm]
  | cons first rest ih =>
    simp only [collect, bind_eq_ok, ih]
    constructor
    · rintro ⟨here, hhere, later, ⟨founds, hfounds, rfl⟩, ⟨⟩⟩
      exact ⟨here :: founds, .cons hhere hfounds, rfl⟩
    · rintro ⟨_, hfounds, rfl⟩
      cases hfounds with
      | cons hhere hfounds => exact ⟨_, hhere, _, ⟨_, hfounds, rfl⟩, rfl⟩

theorem collect_eq_error_iff : collect f items = .error error ↔
    ∃ before item after, items = before ++ item :: after ∧
      (∀ earlier ∈ before, ∃ found, f earlier = .ok found) ∧ f item = .error error := by
  induction items with
  | nil => simp [collect]
  | cons first rest ih =>
    have hmore (here : List Json) :
        (collect f rest >>= fun later => pure (here ++ later)) = .error error ↔
          collect f rest = .error error := by
      rw [bind_eq_error, or_iff_left]
      rintro ⟨later, -, ⟨⟩⟩
    simp only [collect, bind_eq_error, hmore]
    constructor
    · rintro (hfirst | ⟨here, hhere, hrest⟩)
      · exact ⟨[], first, rest, rfl, by simp, hfirst⟩
      · obtain ⟨before, item, after, rfl, hbefore, hitem⟩ := ih.mp hrest
        exact ⟨first :: before, item, after, rfl,
          List.forall_mem_cons.mpr ⟨⟨here, hhere⟩, hbefore⟩, hitem⟩
    · rintro ⟨before, item, after, hitems, hbefore, hitem⟩
      cases before with
      | nil =>
        obtain ⟨rfl, rfl⟩ := List.cons.inj hitems
        exact .inl hitem
      | cons earlier before =>
        obtain ⟨rfl, rfl⟩ := List.cons.inj hitems
        obtain ⟨⟨here, hhere⟩, hbefore⟩ := List.forall_mem_cons.mp hbefore
        exact .inr ⟨here, hhere, ih.mpr ⟨before, item, after, rfl, hbefore, hitem⟩⟩

theorem parts_bind_eq_ok_iff (hf : ∀ value found, f value = .ok found ↔ P value found)
    (htext : ∀ text, ∃ error, f (.str text) = .error error) :
    (parts value >>= collect f) = .ok found ↔ Lists P value found := by
  -- The parts of a text and of an object are texts, which nothing below a list may be.
  have hcons (text : Text) (rest : List Json) : collect f (.str text :: rest) ≠ .ok found := by
    obtain ⟨error, herror⟩ := htext text
    rw [collect, herror]
    rintro ⟨⟩
  constructor
  · intro h
    match value with
    | .arr items =>
      obtain ⟨founds, hfounds, rfl⟩ := collect_eq_ok_iff.mp h
      exact .items (hfounds.imp fun item here => (hf item here).mp)
    | .str [] =>
      obtain rfl : [] = found := Except.ok.inj h
      exact .emptyText
    | .obj [] =>
      obtain rfl : [] = found := Except.ok.inj h
      exact .emptyObject
    | .str (c :: text) => exact absurd h (hcons [c] _)
    | .obj (member :: members) => exact absurd h (hcons member.1 _)
    | .null | .bool _ | .int _ | .real _ => cases h
  · intro h
    cases h with
    | items hfounds =>
      exact collect_eq_ok_iff.mpr ⟨_, hfounds.imp fun item here => (hf item here).mpr, rfl⟩
    | emptyText => rfl
    | emptyObject => rfl

theorem parts_bind_eq_error_iff (hf : ∀ value found, f value = .ok found ↔ P value found)
    (hstray : ∀ value, f value = .error .notAnObject ↔ Q value)
    (htext : ∀ text, f (.str text) = .error .notAnObject) :
    (parts value >>= collect f) = .error .notAnObject ↔ Meets P Q value := by
  have hcons (text : Text) (rest : List Json) :
      collect f (.str text :: rest) = .error .notAnObject := by
    rw [collect, htext]
    rfl
  constructor
  · intro h
    match value with
    | .arr items =>
      obtain ⟨before, item, after, rfl, hbefore, hitem⟩ := collect_eq_error_iff.mp h
      refine .item (fun earlier hearlier => ?_) ((hstray item).mp hitem)
      obtain ⟨found, hfound⟩ := hbefore earlier hearlier
      exact ⟨found, (hf earlier found).mp hfound⟩
    | .str (c :: text) => exact .character
    | .obj (member :: members) => exact .key
    | .str [] | .obj [] | .null | .bool _ | .int _ | .real _ => cases h
  · intro h
    cases h with
    | item hbefore hitem =>
      refine collect_eq_error_iff.mpr ⟨_, _, _, rfl, fun earlier hearlier => ?_,
        (hstray _).mpr hitem⟩
      obtain ⟨found, hfound⟩ := hbefore earlier hearlier
      exact ⟨found, (hf earlier found).mpr hfound⟩
    | character => exact hcons _ _
    | key => exact hcons _ _

theorem partsOf_bind_eq_ok_iff {key : String}
    (hparts : ∀ value found, (parts value >>= collect f) = .ok found ↔ Lists P value found) :
    (partsOf key value >>= collect f) = .ok found ↔ ListsUnder key P value found := by
  match value with
  | .obj members =>
    cases hmember : Json.find? key.toList members with
    | none =>
      have hread : (partsOf key (.obj members) >>= collect f) = .ok [] := by
        rw [partsOf, hmember]
        rfl
      rw [hread]
      constructor
      · rintro ⟨⟩
        exact .missing hmember
      · intro h
        cases h with
        | missing => rfl
        | present hvalue => rw [hmember] at hvalue; cases hvalue
    | some value =>
      rw [partsOf, hmember, hparts]
      constructor
      · exact .present hmember
      · intro h
        cases h with
        | missing hnone => rw [hmember] at hnone; cases hnone
        | present hvalue hlists =>
          obtain rfl : value = _ := Option.some.inj (hmember.symm.trans hvalue)
          exact hlists
  | .null | .bool _ | .int _ | .real _ | .str _ | .arr _ =>
    exact iff_of_false (by rintro ⟨⟩) (by rintro ⟨⟩)

theorem partsOf_bind_eq_error_iff {key : String} :
    (partsOf key value >>= collect f) = .error .notAnObject ↔
      IsStray value ∨ ∃ member, value.get? key = some member ∧
        (parts member >>= collect f) = .error .notAnObject := by
  match value with
  | .obj members =>
    cases hmember : Json.find? key.toList members with
    | none => simp [partsOf, hmember, IsStray, Json.members?, Json.get?, bind, Except.bind, collect]
    | some member => simp [partsOf, hmember, IsStray, Json.members?, Json.get?]
  | .null | .bool _ | .int _ | .real _ | .str _ | .arr _ => exact iff_of_true rfl (.inl rfl)

end Lists

/-! ## Identifiers that can be written -/

section Showable

variable {P : Json → List Json → Prop} {key : String} {value : Json} {found : List Json}

/-- What is found in a value can be written if the value can. -/
def FindsShowable (P : Json → List Json → Prop) : Prop :=
  ∀ value found, P value found → value.IsShowable → ∀ id ∈ found, id.IsShowable

theorem FindsShowable.lists (hP : FindsShowable P) : FindsShowable (Lists P) := by
  intro value found h hvalue
  cases h with
  | emptyText => simp
  | emptyObject => simp
  | @items items founds hfounds =>
    have hitems := Json.isShowable_arr_iff.mp hvalue
    clear hvalue
    induction hfounds with
    | nil => simp
    | cons hhere _ ih =>
      obtain ⟨hfirst, hrest⟩ := List.forall_mem_cons.mp hitems
      rw [List.flatten_cons]
      exact List.forall_mem_append.mpr ⟨hP _ _ hhere hfirst, ih hrest⟩

theorem FindsShowable.listsUnder (hP : FindsShowable P) : FindsShowable (ListsUnder key P) := by
  intro value found h hvalue
  cases h with
  | missing => simp
  | present hmember hlists =>
    exact hP.lists _ _ hlists (.of_find? (Json.isShowable_obj_iff.mp hvalue) hmember)

theorem findsShowable_isWindow : FindsShowable IsWindow := by
  rintro value found ⟨id, hid, rfl⟩ hvalue
  rw [List.forall_mem_singleton]
  cases value with
  | obj members => exact .of_find? (Json.isShowable_obj_iff.mp hvalue) hid
  | _ => cases hid

/-- The identifiers of a listing that can be written can be written. -/
theorem IsListing.isShowable (h : IsListing value found) (hvalue : value.IsShowable) :
    ∀ id ∈ found, id.IsShowable :=
  findsShowable_isWindow.listsUnder.listsUnder.lists value found h hvalue

end Showable

/-! ## Reading listings -/

section Listings

variable {value : Json} {found : List Json}

theorem identifier_eq_ok_iff {id : Json} :
    identifier value = .ok id ↔ value.get? "id" = some id := by
  cases value with
  | obj members =>
    simp only [identifier, Json.get?]
    cases Json.find? "id".toList members <;> simp
  | _ => simp [identifier, Json.get?]

theorem identifier_ne_error : identifier value ≠ .error .notAnObject := by
  cases value with
  | obj members =>
    simp only [identifier]
    cases Json.find? "id".toList members <;> simp
  | _ => simp [identifier]

/-- What a window adds to a listing. -/
def windowOf (value : Json) : Except ListingError (List Json) := List.singleton <$> identifier value

theorem mapM_identifier (windows : List Json) :
    windows.mapM identifier = collect windowOf windows := by
  induction windows with
  | nil => rfl
  | cons first rest ih =>
    rw [List.mapM_cons, ih, collect, windowOf]
    cases identifier first <;> rfl

theorem windowOf_eq_ok_iff : windowOf value = .ok found ↔ IsWindow value found := by
  simp only [IsWindow, ← identifier_eq_ok_iff, windowOf]
  cases identifier value <;> simp [List.singleton, eq_comm]

theorem windowOf_ne_error : windowOf value ≠ .error .notAnObject := by
  intro h
  cases hidentifier : identifier value with
  | ok id => rw [windowOf, hidentifier] at h; cases h
  | error error =>
    rw [windowOf, hidentifier] at h
    obtain rfl : error = .notAnObject := Except.error.inj h
    exact identifier_ne_error hidentifier

theorem tabWindows_eq (tab : Json) :
    tabWindows tab = partsOf "windows" tab >>= collect windowOf := by
  rw [tabWindows]
  congr
  funext windows
  exact mapM_identifier windows

theorem tabWindows_eq_ok_iff : tabWindows value = .ok found ↔ IsTab value found := by
  rw [tabWindows_eq]
  exact partsOf_bind_eq_ok_iff fun _ _ => parts_bind_eq_ok_iff (fun _ _ => windowOf_eq_ok_iff)
    fun _ => ⟨.notAWindow, rfl⟩

theorem tabWindows_eq_error_iff : tabWindows value = .error .notAnObject ↔ IsStray value := by
  rw [tabWindows_eq, partsOf_bind_eq_error_iff, or_iff_left]
  rintro ⟨windows, -, h⟩
  obtain hparts | ⟨parted, -, hcollect⟩ := bind_eq_error.mp h
  · cases windows <;> cases hparts
  · obtain ⟨_, _, _, -, -, hwindow⟩ := collect_eq_error_iff.mp hcollect
    exact windowOf_ne_error hwindow

theorem osWindows_eq_ok_iff : osWindows value = .ok found ↔ IsOsWindow value found :=
  partsOf_bind_eq_ok_iff fun _ _ => parts_bind_eq_ok_iff (fun _ _ => tabWindows_eq_ok_iff)
    fun _ => ⟨.notAnObject, rfl⟩

theorem osWindows_eq_error_iff : osWindows value = .error .notAnObject ↔ HasStrayTab value := by
  have hparts (tabs : Json) : (parts tabs >>= collect tabWindows) = .error .notAnObject ↔
      Meets IsTab IsStray tabs :=
    parts_bind_eq_error_iff (fun _ _ => tabWindows_eq_ok_iff) (fun _ => tabWindows_eq_error_iff)
      fun _ => rfl
  rw [osWindows, partsOf_bind_eq_error_iff]
  simp only [HasStrayTab, hparts]

/-- Exactly the listings are read, and all their identifiers are found, in order. -/
theorem windowIds_eq_ok_iff : windowIds value = .ok found ↔ IsListing value found :=
  parts_bind_eq_ok_iff (fun _ _ => osWindows_eq_ok_iff) fun _ => ⟨.notAnObject, rfl⟩

/-- Exactly a stray that is met before anything else is wrong is the error of its own. -/
theorem windowIds_eq_error_iff : windowIds value = .error .notAnObject ↔ HasStray value :=
  parts_bind_eq_error_iff (fun _ _ => osWindows_eq_ok_iff) (fun _ => osWindows_eq_error_iff)
    fun _ => rfl

theorem IsListing.unique {other : List Json} (h : IsListing value found)
    (hother : IsListing value other) : found = other :=
  Except.ok.inj ((windowIds_eq_ok_iff.mpr h).symm.trans (windowIds_eq_ok_iff.mpr hother))

end Listings

end TermPilot.Kitty
