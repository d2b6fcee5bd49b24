import TermPilot.Proofs.Keys.Name
import TermPilot.Proofs.Recording.Print

/-!
# Names of keys on lines

What a name that stands for a key press looks like: marks of modifiers, and then a word, a letter
with a number, or a single character. Without blanks around it such a name can stand on a line of a
recording, unless it starts like a comment: it is never taken for a directive.
-/

namespace TermPilot

namespace KeyPress

/-! ## Marks -/

/-- The marks that a name may begin with. -/
def marks : List Text := ["C-".toList, "A-".toList, "S-".toList]

/-- A name is its marks and then its base. -/
theorem exists_marks (mods : Modifiers) (name : Text) :
    ∃ front : List Text, (∀ mark ∈ front, mark ∈ marks) ∧
      name = front.flatten ++ (cutMarks mods name).2 := by
  have hcons {mark rest base : Text} (hmark : mark ∈ marks)
      (h : ∃ front : List Text, (∀ mark ∈ front, mark ∈ marks) ∧ rest = front.flatten ++ base) :
      ∃ front : List Text, (∀ mark ∈ front, mark ∈ marks) ∧
        mark ++ rest = front.flatten ++ base := by
    obtain ⟨front, hfront, rfl⟩ := h
    refine ⟨mark :: front, List.forall_mem_cons.mpr ⟨hmark, hfront⟩, ?_⟩
    rw [List.flatten_cons, List.append_assoc]
  fun_induction cutMarks mods name with
  | case1 mods rest ih => exact @hcons "C-".toList _ _ (by decide) ih
  | case2 mods rest ih => exact @hcons "A-".toList _ _ (by decide) ih
  | case3 mods rest ih => exact @hcons "S-".toList _ _ (by decide) ih
  | case4 mods name => exact ⟨[], by simp, rfl⟩

/-! ## Bases -/

section Base

variable {name : Text} {press : KeyPress}

/-- The part of a name after its marks. -/
def base (name : Text) : Text := (cutMarks {} name).2

/-- The three forms of the base of a name that stands for a key press. -/
theorem base_cases (h : ofName? name = .ok (some press)) :
    (∃ entry ∈ Key.words, entry.1.toList = base name) ∨ (∃ c, base name = [c]) ∨
      ∃ letter digits, base name = letter :: digits ∧ (letter = 'f' ∨ letter = 'F') ∧
        Text.isNumeral digits = true := by
  unfold ofName? at h
  unfold base
  generalize cutMarks {} name = cut at h ⊢
  obtain ⟨mods, base⟩ := cut
  simp only at h ⊢
  cases hword : Key.ofWord? base with
  | some key =>
    obtain ⟨word, hentry, hbase⟩ := Text.exists_word_of_find? hword
    exact Or.inl ⟨(word, key), hentry, hbase⟩
  | none =>
    right
    match base with
    | [] =>
      rw [hword] at h
      cases h
    | [c] => exact Or.inl ⟨c, rfl⟩
    | letter :: digit :: rest =>
      right
      refine ⟨letter, digit :: rest, rfl, ?_⟩
      by_contra hnot
      simp only [hword, functionNumber?, if_neg hnot] at h
      cases h

theorem base_ne_nil (h : ofName? name = .ok (some press)) : base name ≠ [] := by
  rcases base_cases h with ⟨entry, hentry, hbase⟩ | ⟨c, hbase⟩ | ⟨letter, digits, hbase, -⟩
  · have hall : ∀ entry ∈ Key.words, entry.1.toList ≠ [] := by decide
    rw [← hbase]
    exact hall entry hentry
  · rw [hbase]
    exact List.cons_ne_nil c []
  · rw [hbase]
    exact List.cons_ne_nil letter digits

/-- A base of several characters is made of letters and digits. -/
theorem isAlphanum_of_mem_base (h : ofName? name = .ok (some press))
    (hlength : 1 < (base name).length) : ∀ c ∈ base name, c.isAlphanum = true := by
  rcases base_cases h with ⟨entry, hentry, hbase⟩ | ⟨c, hbase⟩ |
    ⟨letter, digits, hbase, hletter, hnumeral⟩
  · have hall : ∀ entry ∈ Key.words, entry.1.toList.all Char.isAlphanum = true := by decide
    rw [← hbase]
    exact List.all_eq_true.mp (hall entry hentry)
  · rw [hbase] at hlength
    exact absurd hlength (Nat.lt_irrefl 1)
  · rw [hbase]
    rw [Text.isNumeral, Bool.and_eq_true, List.all_eq_true] at hnumeral
    intro c hc
    rcases List.mem_cons.mp hc with rfl | hc
    · rcases hletter with rfl | rfl <;> rfl
    · rw [Char.isAlphanum, hnumeral.2 c hc, Bool.or_true]

end Base

/-! ## Lines -/

open Recording (IsComment IsDirective IsKeyLine IsKeyName directiveKind_cases)

section Line

variable {name : Text}

/-- The name stands for a key press, and there are no blanks around it nor the mark of a comment in
front of it. -/
structure IsRecordable (name : Text) : Prop where
  resolves : ∃ press, ofName? name = .ok (some press)
  trimmed : Text.trim name = name
  noComment : ¬ IsComment name

instance : Decidable (∃ press, ofName? name = .ok (some press)) :=
  match h : ofName? name with
  | .ok (some press) => isTrue ⟨press, rfl⟩
  | .ok none => isFalse (by simp)
  | .error _ => isFalse (by simp)

instance : DecidablePred IsRecordable := fun name =>
  decidable_of_iff ((∃ press, ofName? name = .ok (some press)) ∧ Text.trim name = name ∧
    ¬ IsComment name) ⟨fun h => ⟨h.1, h.2.1, h.2.2⟩, fun h => ⟨h.1, h.2, h.3⟩⟩

/-- No directive begins with a mark of a modifier. -/
theorem base_of_isDirective {kind payload : Text} (h : IsDirective kind payload name) :
    base name = name := by
  obtain ⟨hkind, rfl⟩ := h
  rcases directiveKind_cases hkind with rfl | rfl | rfl | rfl <;> rfl

/-- A name that stands for a key press is no directive: a directive has more than one character, and
a colon among them. -/
theorem not_isDirective {press : KeyPress} (h : ofName? name = .ok (some press))
    (kind payload : Text) : ¬ IsDirective kind payload name := by
  intro hdirective
  have hbase := base_of_isDirective hdirective
  obtain ⟨hkind, hname⟩ := hdirective
  have hlength : 1 < (base name).length := by
    have hall : ∀ kind ∈ Recording.directiveKinds, 1 < kind.length := by decide
    have hlong := hall kind hkind
    rw [hbase, hname, List.length_append]
    omega
  have hcolon : ':' ∈ base name := by
    rw [hbase, hname]
    exact List.mem_append_right kind List.mem_cons_self
  exact absurd (isAlphanum_of_mem_base h hlength ':' hcolon) (by decide)

/-- A name without blanks around it is one line: only a base of one character could be the line
break, which would then end the name. -/
theorem IsRecordable.oneLine (h : IsRecordable name) : '\n' ∉ name := by
  obtain ⟨press, hpress⟩ := h.resolves
  obtain ⟨front, hfront, hname⟩ := exists_marks {} name
  have hmarks : '\n' ∉ front.flatten := by
    have hall : ∀ mark ∈ marks, '\n' ∉ mark := by decide
    rw [List.mem_flatten]
    rintro ⟨mark, hmark, hbreak⟩
    exact hall mark (hfront mark hmark) hbreak
  have hbase : '\n' ∉ base name := by
    intro hbreak
    by_cases hlength : 1 < (base name).length
    · exact absurd (isAlphanum_of_mem_base hpress hlength '\n' hbreak) (by decide)
    · obtain ⟨c, hc⟩ := List.length_eq_one_iff.mp (Nat.le_antisymm (Nat.le_of_not_lt hlength)
        (List.length_pos_of_mem hbreak))
      have hlast : name.getLast? = some '\n' := by
        rw [hc, List.mem_singleton] at hbreak
        change name = front.flatten ++ base name at hname
        rw [hname, hc, hbreak, List.getLast?_concat]
      exact absurd (Text.not_isBlank_of_trim_eq_self h.trimmed '\n' hlast) (by decide)
  rw [hname, List.mem_append, not_or]
  exact ⟨hmarks, hbase⟩

/-- Such a name can stand on a line of a recording. -/
theorem IsRecordable.isKeyName (h : IsRecordable name) : IsKeyName name := by
  obtain ⟨press, hpress⟩ := h.resolves
  refine ⟨⟨?_, h.noComment, not_isDirective hpress⟩, h.trimmed, h.oneLine⟩
  rintro rfl
  exact base_ne_nil hpress rfl

end Line

end KeyPress

end TermPilot
