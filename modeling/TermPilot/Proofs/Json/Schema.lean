import TermPilot.Json.Schema

/-!
# What a schema lets through

For each kind of schema, the form of the documents that satisfy it: what a reader of such a document
may rely on.
-/

namespace TermPilot.Schema

open Json

variable {v : Json}

/-! ## Acceptance, kind by kind -/

section Kinds

variable {item value schema first second : Schema} {fields : List (Text × Schema)}
  {required : List Text} {choices : List Schema} {members : List (Text × Json)}

theorem accepts_text {least : Nat} {t : Text} :
    (text least).accepts (.str t) = decide (least ≤ t.length) := rfl

theorem accepts_word {words : List Text} {t : Text} :
    (word words).accepts (.str t) = words.contains t := rfl

theorem accepts_number {bound : LowerBound} : (number bound).accepts v = withinBound bound v := rfl

theorem accepts_count :
    count.accepts v = match v.whole? with
      | some n => decide (1 ≤ n)
      | none => false := rfl

theorem accepts_list {least : Nat} {items : List Json} :
    (list item least).accepts (.arr items) =
      (decide (least ≤ items.length) && items.all item.accepts) := rfl

theorem accepts_map :
    (map value).accepts (.obj members) = members.all fun member => value.accepts member.2 := rfl

theorem accepts_record :
    (record fields required).accepts (.obj members) = (required.all (hasMember · members) &&
      members.all (fun member => fields.any fun field => field.1 = member.1) &&
      acceptsFields fields members) := rfl

theorem acceptsFields_cons {name : Text} :
    acceptsFields ((name, schema) :: fields) members =
      ((match find? name members with
        | some v => schema.accepts v
        | none => true) && acceptsFields fields members) := rfl

theorem accepts_eitherMember {one other : Text} :
    (eitherMember one other).accepts (.obj members) =
      (hasMember one members != hasMember other members) := rfl

theorem accepts_both : (both first second).accepts v = (first.accepts v && second.accepts v) := rfl

theorem accepts_oneOf : (oneOf choices).accepts v = decide (acceptingChoices choices v = 1) := rfl

theorem acceptingChoices_cons :
    acceptingChoices (schema :: choices) v =
      (if schema.accepts v then 1 else 0) + acceptingChoices choices v := rfl

end Kinds

/-! ## Simple values -/

section Simple

theorem exists_text {least : Nat} (h : (text least).accepts v = true) :
    ∃ t, v = .str t ∧ least ≤ t.length := by
  cases v with
  | str t =>
    rw [accepts_text, decide_eq_true_iff] at h
    exact ⟨t, rfl, h⟩
  | _ => cases h

theorem eq_word {choice : Text} (h : (word [choice]).accepts v = true) : v = .str choice := by
  cases v with
  | str t =>
    rw [accepts_word, List.contains_cons, List.contains_nil, Bool.or_false, beq_iff_eq] at h
    rw [h]
  | _ => cases h

theorem exists_bool (h : bool.accepts v = true) : ∃ b, v = .bool b := by
  cases v with
  | bool b => exact ⟨b, rfl⟩
  | _ => cases h

/-- A number that is not below zero is a whole number or a real. -/
theorem number_zero (h : (number .zero).accepts v = true) :
    (∃ n : Int, v = .int n ∧ 0 ≤ n) ∨ ∃ x : Float, v = .real x ∧ ¬ x < 0 := by
  rw [accepts_number] at h
  cases v with
  | int n => exact Or.inl ⟨n, rfl, of_decide_eq_true h⟩
  | real x =>
    refine Or.inr ⟨x, rfl, ?_⟩
    simpa [withinBound] using h
  | _ => cases h

theorem exists_count (h : count.accepts v = true) : ∃ n, v.whole? = some n ∧ 1 ≤ n := by
  cases hwhole : v.whole? with
  | none =>
    rw [accepts_count, hwhole] at h
    cases h
  | some n =>
    rw [accepts_count, hwhole] at h
    exact ⟨n, rfl, of_decide_eq_true h⟩

end Simple

/-! ## Collections -/

section Collections

variable {item value : Schema} {least : Nat}

theorem exists_items (h : (list item least).accepts v = true) :
    ∃ items, v = .arr items ∧ least ≤ items.length ∧ ∀ i ∈ items, item.accepts i = true := by
  cases v with
  | arr items =>
    rw [accepts_list, Bool.and_eq_true, decide_eq_true_iff, List.all_eq_true] at h
    exact ⟨items, rfl, h.1, h.2⟩
  | _ => cases h

theorem exists_members (h : (map value).accepts v = true) :
    ∃ members, v = .obj members ∧ ∀ member ∈ members, value.accepts member.2 = true := by
  cases v with
  | obj members =>
    rw [accepts_map, List.all_eq_true] at h
    exact ⟨members, rfl, h⟩
  | _ => cases h

/-- Accepted texts are texts. -/
theorem exists_texts {least : Nat} {items : List Json}
    (h : ∀ i ∈ items, (text least).accepts i = true) :
    ∃ texts : List Text, items = texts.map .str := by
  induction items with
  | nil => exact ⟨[], rfl⟩
  | cons first items ih =>
    obtain ⟨hfirst, hitems⟩ := List.forall_mem_cons.mp h
    obtain ⟨t, rfl, -⟩ := exists_text hfirst
    obtain ⟨texts, rfl⟩ := ih hitems
    exact ⟨t :: texts, rfl⟩

/-- Members with accepted texts are members with texts. -/
theorem exists_textMembers {least : Nat} {members : List (Text × Json)}
    (h : ∀ member ∈ members, (text least).accepts member.2 = true) :
    ∃ texts : List (Text × Text), members = texts.map (Prod.map id .str) := by
  induction members with
  | nil => exact ⟨[], rfl⟩
  | cons first members ih =>
    obtain ⟨hfirst, hmembers⟩ := List.forall_mem_cons.mp h
    obtain ⟨name, v⟩ := first
    obtain ⟨t, rfl, -⟩ := exists_text hfirst
    obtain ⟨texts, rfl⟩ := ih hmembers
    exact ⟨(name, t) :: texts, rfl⟩

end Collections

/-! ## Records -/

section Records

variable {fields : List (Text × Schema)} {required : List Text} {schema : Schema} {key : String}

theorem acceptsFields_find? {members : List (Text × Json)} {name : Text}
    (h : acceptsFields fields members = true) (hfield : (name, schema) ∈ fields)
    (hv : find? name members = some v) : schema.accepts v = true := by
  induction fields with
  | nil => cases hfield
  | cons field fields ih =>
    obtain ⟨first, other⟩ := field
    rw [acceptsFields_cons, Bool.and_eq_true] at h
    rcases List.mem_cons.mp hfield with heq | hlater
    · obtain ⟨rfl, rfl⟩ := Prod.mk.inj heq
      have hfirst := h.1
      rw [hv] at hfirst
      exact hfirst
    · exact ih h.2 hlater

/-- A member of an accepted record satisfies its schema. -/
theorem accepts_member (h : (record fields required).accepts v = true)
    (hfield : (key.toList, schema) ∈ fields) {w : Json} (hw : v.get? key = some w) :
    schema.accepts w = true := by
  cases v with
  | obj members =>
    rw [accepts_record, Bool.and_eq_true] at h
    exact acceptsFields_find? h.2 hfield hw
  | _ => cases hw

/-- An accepted record has each member that is required, and it satisfies its schema. -/
theorem exists_member (h : (record fields required).accepts v = true)
    (hrequired : key.toList ∈ required) (hfield : (key.toList, schema) ∈ fields) :
    ∃ w, v.get? key = some w ∧ schema.accepts w = true := by
  have hsome : ∃ w, v.get? key = some w := by
    cases v with
    | obj members =>
      rw [accepts_record, Bool.and_eq_true, Bool.and_eq_true, List.all_eq_true] at h
      exact Option.isSome_iff_exists.mp (h.1.1 _ hrequired)
    | _ => cases h
  obtain ⟨w, hw⟩ := hsome
  exact ⟨w, hw, accepts_member h hfield hw⟩

/-- An accepted record has no member that it does not name. -/
theorem get?_eq_none (h : (record fields required).accepts v = true)
    (hfield : key.toList ∉ fields.map Prod.fst) : v.get? key = none := by
  cases v with
  | obj members =>
    rw [accepts_record, Bool.and_eq_true, Bool.and_eq_true] at h
    refine Option.eq_none_iff_forall_ne_some.mpr fun w hw => ?_
    obtain ⟨member, hmember, -⟩ := Option.map_eq_some_iff.mp hw
    have hnamed := List.all_eq_true.mp h.1.2 member (List.mem_of_find?_eq_some hmember)
    obtain ⟨field, hin, hname⟩ := List.any_eq_true.mp hnamed
    have hkey := List.find?_some hmember
    rw [decide_eq_true_iff] at hname hkey
    exact hfield (List.mem_map.mpr ⟨field, hin, hname.trans hkey⟩)
  | _ => rfl

/-- An accepted record that satisfies a choice between two members has one of them. -/
theorem eitherMember_get? {first second : String}
    (h : (eitherMember first.toList second.toList).accepts v = true)
    (hsecond : v.get? second = none) : ∃ w, v.get? first = some w := by
  cases v with
  | obj members =>
    rw [accepts_eitherMember] at h
    have hmissing : hasMember second.toList members = false := by
      rw [hasMember, Option.isSome_eq_false_iff, Option.isNone_iff_eq_none]
      exact hsecond
    rw [hmissing, bne_iff_ne, ne_eq, Bool.not_eq_false] at h
    exact Option.isSome_iff_exists.mp h
  | _ => cases h

end Records

/-! ## Choices -/

/-- If exactly one of some schemas accepts a document, one of them does. -/
theorem exists_choice {choices : List Schema} (h : (oneOf choices).accepts v = true) :
    ∃ choice ∈ choices, choice.accepts v = true := by
  rw [accepts_oneOf, decide_eq_true_iff] at h
  induction choices with
  | nil => cases h
  | cons choice choices ih =>
    rw [acceptingChoices_cons] at h
    by_cases hchoice : choice.accepts v = true
    · exact ⟨choice, List.mem_cons_self, hchoice⟩
    · rw [if_neg hchoice, Nat.zero_add] at h
      obtain ⟨other, hother, haccepts⟩ := ih h
      exact ⟨other, List.mem_cons_of_mem _ hother, haccepts⟩

end TermPilot.Schema
