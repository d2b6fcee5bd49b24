import TermPilot.Proofs.Keys.Name

/-!
# Names encoded one after the other

Names are encoded in order up to the first that fails. An encoder that remembers what it was asked
may answer the same name in two ways, so what becomes of a name depends on the names in front of it.
-/

namespace TermPilot.Typing

open Recording (Fails fails_error not_fails_ok)

variable {τ : Type} {encoder : RecallingEncoder τ} {modes : KeyModes} {m m₁ m₂ : τ} {name : Text}
  {names front : List Text} {found others : List (Text × Option Text)}

/-- The encodings of the names that stand for key presses, in order. -/
def Encodings.texts (keys : Encodings) : List Text := keys.found.filterMap Prod.snd

/-- What becomes of names behind others that do not fail. -/
def Encodings.behind (found : List (Text × Option Text)) (keys : Encodings) : Encodings :=
  { keys with found := found ++ keys.found }

/-! ## Encoders that remember -/

section Ask

theorem run_askName_of_some {press : KeyPress} {answer : Except KeyEncodingError Text}
    (h : KeyPress.ofName? name = .ok (some press))
    (hanswer : (encoder press.key press.mods modes).run m = (answer, m₁)) :
    (askName encoder modes name).run m = (outcomeOf answer, m₁) := by
  rw [askName, h]
  dsimp only
  rw [StateT.run_map, hanswer]
  rfl

theorem run_askName_of_none (h : KeyPress.ofName? name = .ok none) :
    (askName encoder modes name).run m = (.ok none, m) := by
  rw [askName, h]
  rfl

theorem run_askName_of_error {error : NumeralError} (h : KeyPress.ofName? name = .error error) :
    (askName encoder modes name).run m = (.error (.ofNumeral error), m) := by
  rw [askName, h]
  rfl

/-- The error of an encoder comes from a key press that it refuses. -/
theorem run_askName_eq_encoding_iff {error : KeyEncodingError} :
    (askName encoder modes name).run m = (.error (.encoding error), m₁) ↔
      ∃ press, KeyPress.ofName? name = .ok (some press) ∧
        (encoder press.key press.mods modes).run m = (.error error, m₁) := by
  rcases hname : KeyPress.ofName? name with numeral | press
  · rw [run_askName_of_error hname]
    refine iff_of_false ?_ ?_
    · cases numeral <;> rintro ⟨⟩
    · rintro ⟨press, ⟨⟩, -⟩
  · cases press with
    | none =>
      rw [run_askName_of_none hname]
      refine iff_of_false ?_ ?_
      · rintro ⟨⟩
      · rintro ⟨press, ⟨⟩, -⟩
    | some press =>
      rcases hanswer : (encoder press.key press.mods modes).run m with ⟨answer, m'⟩
      rw [run_askName_of_some hname hanswer]
      constructor
      · intro h
        obtain ⟨houtcome, rfl⟩ := Prod.mk.inj h
        cases answer with
        | error refused =>
          cases houtcome
          exact ⟨press, rfl, hanswer⟩
        | ok text => cases houtcome
      · rintro ⟨press, ⟨⟩, hrefused⟩
        obtain ⟨rfl, rfl⟩ := Prod.mk.inj (hanswer.symm.trans hrefused)
        rfl

end Ask

/-- Names are encoded one after the other and none fails. The encoder is asked for those that stand
for a key press, and what it remembers goes from `m` to `m'`. -/
inductive Encodes (encoder : RecallingEncoder τ) (modes : KeyModes) :
    τ → List Text → List (Text × Option Text) → τ → Prop
  | nil (m : τ) : Encodes encoder modes m [] [] m
  | unresolved {m m' : τ} {name : Text} {names : List Text} {found : List (Text × Option Text)} :
    KeyPress.ofName? name = .ok none → Encodes encoder modes m names found m' →
    Encodes encoder modes m (name :: names) ((name, none) :: found) m'
  | encoded {m m₁ m' : τ} {name text : Text} {names : List Text} {press : KeyPress}
    {found : List (Text × Option Text)} :
    KeyPress.ofName? name = .ok (some press) →
    (encoder press.key press.mods modes).run m = (.ok text, m₁) →
    Encodes encoder modes m₁ names found m' →
    Encodes encoder modes m (name :: names) ((name, some text) :: found) m'

section Encodes

theorem encodes_singleton {encoded : Option Text}
    (h : (askName encoder modes name).run m = (.ok encoded, m₁)) :
    Encodes encoder modes m [name] [(name, encoded)] m₁ := by
  rcases hname : KeyPress.ofName? name with error | press
  · rw [run_askName_of_error hname] at h
    cases h
  · cases press with
    | none =>
      rw [run_askName_of_none hname] at h
      cases h
      exact .unresolved hname (.nil m)
    | some press =>
      rcases hanswer : (encoder press.key press.mods modes).run m with ⟨answer, m'⟩
      rw [run_askName_of_some hname hanswer] at h
      obtain ⟨houtcome, rfl⟩ := Prod.mk.inj h
      cases answer with
      | error error => cases houtcome
      | ok text =>
        cases houtcome
        exact .encoded hname hanswer (.nil m')

theorem Encodes.append (h : Encodes encoder modes m front found m₁)
    (hnames : Encodes encoder modes m₁ names others m₂) :
    Encodes encoder modes m (front ++ names) (found ++ others) m₂ := by
  induction h with
  | nil m => exact hnames
  | unresolved hname _ ih => exact .unresolved hname (ih hnames)
  | encoded hname hanswer _ ih => exact .encoded hname hanswer (ih hnames)

theorem Encodes.of_append (h : Encodes encoder modes m (front ++ names) found m₂) :
    ∃ left right m₁, Encodes encoder modes m front left m₁ ∧
      Encodes encoder modes m₁ names right m₂ := by
  induction front generalizing m found with
  | nil => exact ⟨[], found, m, .nil m, h⟩
  | cons name front ih =>
    cases h with
    | unresolved hname hrest =>
      obtain ⟨left, right, m₁, hleft, hright⟩ := ih hrest
      exact ⟨_, right, m₁, .unresolved hname hleft, hright⟩
    | encoded hname hanswer hrest =>
      obtain ⟨left, right, m₁, hleft, hright⟩ := ih hrest
      exact ⟨_, right, m₁, .encoded hname hanswer hleft, hright⟩

theorem run_encodeNames_of_error {fault : Fault}
    (h : (askName encoder modes name).run m = (.error fault, m₁)) :
    (encodeNames encoder modes (name :: names)).run m = ({ failure := some fault }, m₁) := by
  rw [encodeNames, StateT.run_bind, h]
  rfl

theorem run_encodeNames_of_ok {encoded : Option Text}
    (h : (askName encoder modes name).run m = (.ok encoded, m₁)) :
    (encodeNames encoder modes (name :: names)).run m =
      Prod.map (Encodings.behind [(name, encoded)]) id
        ((encodeNames encoder modes names).run m₁) := by
  rw [encodeNames, StateT.run_bind, h]
  rfl

/-- What is encoded without failing does not change what becomes of the names behind it, except by
what the encoder remembers of it. -/
theorem Encodes.run_append (h : Encodes encoder modes m front found m₁) (names : List Text) :
    (encodeNames encoder modes (front ++ names)).run m =
      Prod.map (Encodings.behind found) id ((encodeNames encoder modes names).run m₁) := by
  induction h with
  | nil m => rfl
  | unresolved hname _ ih =>
    rw [List.cons_append, run_encodeNames_of_ok (run_askName_of_none hname), ih]
    rfl
  | encoded hname hanswer _ ih =>
    rw [List.cons_append, run_encodeNames_of_ok (run_askName_of_some hname hanswer), ih]
    rfl

theorem Encodes.run_encodeNames (h : Encodes encoder modes m names found m₁) :
    (encodeNames encoder modes names).run m = ({ found }, m₁) := by
  have hrun := h.run_append []
  rw [List.append_nil] at hrun
  rw [hrun]
  exact Prod.ext (congrArg (Encodings.mk · none) (List.append_nil found)) rfl

theorem Encodes.run_stopped {fault : Fault} (h : Encodes encoder modes m front found m₁)
    (hname : (askName encoder modes name).run m₁ = (.error fault, m₂)) (rest : List Text) :
    (encodeNames encoder modes (front ++ name :: rest)).run m =
      ({ found, failure := some fault }, m₂) := by
  rw [h.run_append, run_encodeNames_of_error hname]
  exact Prod.ext (congrArg (Encodings.mk · (some fault)) (List.append_nil found)) rfl

/-- Either all names are encoded, or those in front of the first that fails. -/
theorem encodes_or_stops (encoder : RecallingEncoder τ) (modes : KeyModes) (m : τ)
    (names : List Text) :
    (∃ found m', Encodes encoder modes m names found m') ∨
      ∃ front name rest found m₁ fault m₂, names = front ++ name :: rest ∧
        Encodes encoder modes m front found m₁ ∧
        (askName encoder modes name).run m₁ = (.error fault, m₂) := by
  induction names generalizing m with
  | nil => exact Or.inl ⟨[], m, .nil m⟩
  | cons name names ih =>
    rcases hask : (askName encoder modes name).run m with ⟨fault | encoded, m₁⟩
    · exact Or.inr ⟨[], name, names, [], m, fault, m₁, rfl, .nil m, hask⟩
    · have hfirst := encodes_singleton hask
      rcases ih m₁ with ⟨found, m', hall⟩ | hstops
      · exact Or.inl ⟨_, m', hfirst.append hall⟩
      · obtain ⟨front, bad, rest, found, m₂, fault, m₃, rfl, hfront, hbad⟩ := hstops
        exact Or.inr ⟨name :: front, bad, rest, _, m₂, fault, m₃, rfl, hfirst.append hfront, hbad⟩

end Encodes

/-! ## Encoders that remember nothing -/

section Recalling

variable {encoder : KeyEncoder}

/-- What becomes of names with an encoder that remembers nothing. -/
def encodings (encoder : KeyEncoder) (modes : KeyModes) (names : List Text) : Encodings :=
  ((encodeNames encoder.recalling modes names).run ()).1

theorem run_askName_recalling (encoder : KeyEncoder) (modes : KeyModes) (name : Text) :
    (askName encoder.recalling modes name).run () = (encodeName encoder modes name, ()) := by
  unfold askName encodeName
  rcases KeyPress.ofName? name with error | _ | press <;> rfl

theorem encodings_of_error {fault : Fault} (h : encodeName encoder modes name = .error fault)
    (names : List Text) :
    encodings encoder modes (name :: names) = { failure := some fault } := by
  have hask := run_askName_recalling encoder modes name
  rw [h] at hask
  rw [encodings, run_encodeNames_of_error hask]

theorem encodings_of_ok {encoded : Option Text} (h : encodeName encoder modes name = .ok encoded)
    (names : List Text) :
    encodings encoder modes (name :: names) =
      (encodings encoder modes names).behind [(name, encoded)] := by
  have hask := run_askName_recalling encoder modes name
  rw [h] at hask
  rw [encodings, run_encodeNames_of_ok hask]
  rfl

theorem failure_encodings_eq_none_iff :
    (encodings encoder modes names).failure = none ↔
      ∀ name ∈ names, ¬ Fails (encodeName encoder modes name) := by
  induction names with
  | nil => exact iff_of_true rfl (by simp)
  | cons name names ih =>
    rw [List.forall_mem_cons]
    rcases hname : encodeName encoder modes name with fault | encoded
    · rw [encodings_of_error hname]
      exact iff_of_false (by simp) fun h => h.1 (fails_error fault)
    · rw [encodings_of_ok hname, and_iff_right (not_fails_ok encoded), ← ih]
      rfl

theorem texts_encodings (h : ∀ name ∈ names, ¬ Fails (encodeName encoder modes name)) :
    (encodings encoder modes names).texts = keyTexts encoder modes names := by
  induction names with
  | nil => rfl
  | cons name names ih =>
    obtain ⟨hname, hnames⟩ := List.forall_mem_cons.mp h
    rcases hencoded : encodeName encoder modes name with fault | encoded
    · rw [hencoded] at hname
      exact absurd (fails_error fault) hname
    · rw [encodings_of_ok hencoded, keyTexts_cons, encodeName_eq_ok hencoded, ← ih hnames]
      cases encoded <;> rfl

end Recalling

end TermPilot.Typing
