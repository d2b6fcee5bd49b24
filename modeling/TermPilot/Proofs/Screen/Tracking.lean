import TermPilot.Proofs.Screen.Misread

/-!
# Tracking the foreground

In a line of characters and style selections the foreground at a text is the one that the last
setting in front of the end of the text makes, as long as every setting of the line is tracked. A
setting that is not tracked is enough to have another foreground in some line.
-/

namespace TermPilot.Screen

open Terminal

/-! ## Lines of characters and selections -/

/-- A part of a line: a character, or a sequence that selects styles by one or more settings. -/
inductive Item where
  /-- A character that is shown. -/
  | char (c : Char) (plain : c ≠ esc)
  /-- A sequence that selects styles. -/
  | select (first : Setting) (more : List Setting)

/-- The settings of an item. -/
def Item.settings : Item → List Setting
  | .char _ _ => []
  | .select first more => first :: more

/-- The text that an item stands in a line as. -/
def Item.raw : Item → Text
  | .char c _ => [c]
  | .select first more =>
    sgrSequence (Text.join [';'] ((first :: more).flatMap Setting.parameters))

/-- What is shown of an item. -/
def Item.shown : Item → Text
  | .char c _ => [c]
  | .select _ _ => []

/-- The piece that an item is read as. -/
def Item.piece : Item → Piece
  | .char c _ => .char c
  | .select first more => .sequence (Item.select first more).raw

/-- The foreground at a text is the one after the settings in front of the character that ends its
first occurrence, and none if the text is not shown. -/
def ReadsForeground (line : List Item) (needle : Text) : Prop :=
  (¬ needle <:+: line.flatMap Item.shown →
      foregroundAt (line.flatMap Item.raw) needle = .ok none) ∧
    (needle <:+: line.flatMap Item.shown → ∃ place before c plain after,
      OccursFirst needle (line.flatMap Item.shown) place ∧ line = before ++ .char c plain :: after ∧
        (before.flatMap Item.shown).length + 1 = place + needle.length ∧
        foregroundAt (line.flatMap Item.raw) needle =
          .ok (foregroundOf none (before.flatMap Item.settings)))

section Line

variable {line before : List Item} {first : Setting} {more : List Setting} {current : Option Rgb}

theorem isSeparated_select (first : Setting) (more : List Setting) :
    IsSeparated ((first :: more).flatMap Setting.parameters)
      (Text.join [';'] ((first :: more).flatMap Setting.parameters)) :=
  isSeparated_join (List.append_ne_nil_of_left_ne_nil first.parameters_ne_nil _)

theorem isNumeric_select (first : Setting) (more : List Setting) :
    ∀ p ∈ (first :: more).flatMap Setting.parameters, IsNumeric p := by
  intro p hp
  obtain ⟨s, -, hs⟩ := List.mem_flatMap.mp hp
  exact s.isNumeric_parameters p hs

theorem isParameters_select (first : Setting) (more : List Setting) :
    IsParameters (Text.join [';'] ((first :: more).flatMap Setting.parameters)) :=
  (isSeparated_select first more).isParameters (isNumeric_select first more)

theorem pieces_flatMap_raw_items (line : List Item) :
    pieces (line.flatMap Item.raw) = line.map Item.piece := by
  induction line with
  | nil => rfl
  | cons item line ih =>
    cases item with
    | char c plain =>
      rw [List.flatMap_cons, List.map_cons, ← ih]
      exact pieces_char plain
    | select first more =>
      rw [List.flatMap_cons, List.map_cons, ← ih]
      exact pieces_sgr (isParameters_select first more) _

theorem flatMap_visible_items (line : List Item) :
    (line.map Item.piece).flatMap Piece.visible = line.flatMap Item.shown := by
  have hsame : (fun item : Item => item.piece.visible) = Item.shown := by
    funext item
    cases item <;> rfl
  rw [List.flatMap_map, hsame]

theorem strip_flatMap_raw_items (line : List Item) :
    strip (line.flatMap Item.raw) = line.flatMap Item.shown := by
  rw [strip, pieces_flatMap_raw_items, flatMap_visible_items]

/-- A character that is shown splits the line where it stands. -/
theorem exists_char_of_flatMap_shown {c : Char} {a b : Text}
    (h : line.flatMap Item.shown = a ++ c :: b) :
    ∃ before plain after, line = before ++ .char c plain :: after ∧
      before.flatMap Item.shown = a := by
  rw [← flatMap_visible_items] at h
  obtain ⟨earlier, later, hpieces, hearlier, -⟩ := exists_char_of_flatMap_visible h
  obtain ⟨before, rest, rfl, rfl, hrest⟩ := List.map_eq_append_iff.mp hpieces
  obtain ⟨item, after, rfl, hitem, -⟩ := List.map_eq_cons_iff.mp hrest
  cases item with
  | char d plain =>
    cases hitem
    exact ⟨before, plain, after, rfl, (flatMap_visible_items before).symm.trans hearlier⟩
  | select first more => cases hitem

/-- A selection is read parameter by parameter. -/
theorem foregroundPast_select (current : Option Rgb) (first : Setting) (more : List Setting) :
    foregroundPast current (Item.select first more).raw =
      foregroundAfter 0 current ((first :: more).flatMap Setting.parameters) := by
  rw [foregroundPast, Item.raw, sgrParameters?_sgr (isParameters_select first more)]
  exact applyForeground_splitParameters (isSeparated_select first more)
    (isNumeric_select first more) current

theorem foregroundPast_select_of_tracked (h : ∀ s ∈ first :: more, s.IsTracked)
    (current : Option Rgb) :
    foregroundPast current (Item.select first more).raw =
      .ok (foregroundOf current (first :: more)) := by
  rw [foregroundPast_select, foregroundAfter_settings h]

/-! ## Tracked settings -/

theorem exists_tinted_items (h : ∀ item ∈ line, ∀ s ∈ item.settings, s.IsTracked)
    (current : Option Rgb) : ∃ all, tinted current (line.map Item.piece) = .ok all := by
  refine exists_tinted_of_forall (fun raw hraw current => ?_) current
  obtain ⟨item, hitem, hpiece⟩ := List.mem_map.mp hraw
  cases item with
  | char c plain => cases hpiece
  | select first more =>
    cases hpiece
    exact ⟨_, foregroundPast_select_of_tracked (h _ hitem) current⟩

theorem foregroundAfterAll_items (h : ∀ item ∈ before, ∀ s ∈ item.settings, s.IsTracked)
    (current : Option Rgb) :
    foregroundAfterAll current (selections (before.map Item.piece)) =
      .ok (foregroundOf current (before.flatMap Item.settings)) := by
  induction before generalizing current with
  | nil => rfl
  | cons item before ih =>
    obtain ⟨hitem, hbefore⟩ := List.forall_mem_cons.mp h
    rw [List.flatMap_cons, foregroundOf_append]
    cases item with
    | char c plain => exact ih hbefore current
    | select first more =>
      have hselect := foregroundPast_select_of_tracked hitem current
      exact (foregroundAfterAll_sequence hselect _).trans (ih hbefore _)

theorem readsForeground_of_tracked {needle : Text} (hne : needle ≠ [])
    (h : ∀ item ∈ line, ∀ s ∈ item.settings, s.IsTracked) : ReadsForeground line needle := by
  obtain ⟨all, hall⟩ := exists_tinted_items h none
  rw [← pieces_flatMap_raw_items] at hall
  have hshown := strip_flatMap_raw_items line
  refine ⟨fun hoccurs => foregroundAt_of_not_occurs hall (by rwa [hshown]), fun hoccurs => ?_⟩
  obtain ⟨place, hplace⟩ := exists_occursFirst hoccurs
  obtain ⟨front, c, back, hsplit, hlength⟩ := hplace.exists_split hne
  obtain ⟨before, plain, after, hline, rfl⟩ := exists_char_of_flatMap_shown hsplit
  obtain ⟨entry, hentry, hfound⟩ := foregroundAt_of_occursFirst hall hne (by rwa [hshown])
  have hbefore : ∀ item ∈ before, ∀ s ∈ item.settings, s.IsTracked :=
    fun item hitem => h item (by rw [hline]; exact List.mem_append_left _ hitem)
  refine ⟨place, before, c, plain, after, hplace, hline, hlength, ?_⟩
  -- the entry that is found is the one of the character behind `before`
  rw [pieces_flatMap_raw_items, hline, List.map_append] at hall
  obtain ⟨colour, hcolour, hsame⟩ := exists_foregroundAfterAll hall
  have hplaced : (before.flatMap Item.shown).length = place + needle.length - 1 := by omega
  rw [foregroundAfterAll_items hbefore] at hcolour
  rw [flatMap_visible_items, hplaced, hentry] at hsame
  cases hcolour
  rw [hfound, Option.some.inj hsame]

end Line

/-! ## Settings that are not tracked -/

section Pair

variable {first second s : Setting}

/-- A line with a single character behind two settings. -/
def pairLine (first second : Setting) : List Item :=
  [.select first [second], .char 'x' (by decide)]

theorem foregroundAt_pairLine (first second : Setting) :
    foregroundAt ((pairLine first second).flatMap Item.raw) ['x'] =
      foregroundAfter 0 none (first.parameters ++ second.parameters) := by
  have hparameters : [first, second].flatMap Setting.parameters =
      first.parameters ++ second.parameters := by
    rw [List.flatMap_cons, List.flatMap_singleton]
  have hpieces : (pairLine first second).map Item.piece =
      [.sequence (Item.select first [second]).raw, .char 'x'] := rfl
  rw [foregroundAt, pieces_flatMap_raw_items, hpieces, foregroundFrom_sequence,
    foregroundPast_select, hparameters]
  cases foregroundAfter 0 none (first.parameters ++ second.parameters) <;> rfl

theorem ReadsForeground.foregroundAfter_pair (h : ReadsForeground (pairLine first second) ['x']) :
    foregroundAfter 0 none (first.parameters ++ second.parameters) =
      .ok (second.change?.getD (first.change?.getD none)) := by
  have hshown : ['x'] <:+: (pairLine first second).flatMap Item.shown := List.infix_rfl
  obtain ⟨place, before, c, plain, after, -, hline, -, hread⟩ := h.2 hshown
  -- the only character of the line stands behind its only selection
  have hbefore : before = [.select first [second]] := by
    rcases before with _ | ⟨item, _ | ⟨next, before⟩⟩ <;> simp_all [pairLine]
  have hsettings : before.flatMap Item.settings = [first, second] := by
    rw [hbefore]
    rfl
  rw [foregroundAt_pairLine, hsettings, foregroundOf_cons, foregroundOf_cons] at hread
  exact hread

theorem sampleColour_isTracked : sampleColour.IsTracked := by decide

theorem change?_sampleColour : sampleColour.change? = some (some ⟨1, 2, 3⟩) := by decide

/-- Next to the sample colour a setting that is not tracked is enough. -/
theorem not_readsForeground (h : ¬ s.IsTracked) :
    ¬ ReadsForeground (pairLine sampleColour s) ['x'] ∨
      ¬ ReadsForeground (pairLine s sampleColour) ['x'] := by
  rcases Setting.misread h with hbehind | hfront
  · left
    intro hreads
    have hpair := hreads.foregroundAfter_pair
    rw [sampleColour_isTracked.foregroundAfter_eq, change?_sampleColour] at hpair
    exact hbehind hpair
  · right
    intro hreads
    have hpair := hreads.foregroundAfter_pair
    rw [change?_sampleColour] at hpair
    exact hfront hpair

end Pair

/-- In the lines of given settings, of which the sample colour is one, the foreground at every text
is the one that the last setting in front of its end makes, exactly if the settings are tracked. -/
theorem readsForeground_iff_isTracked {given : Setting → Prop} (hsample : given sampleColour) :
    (∀ line needle, needle ≠ [] → (∀ item ∈ line, ∀ s ∈ item.settings, given s) →
      ReadsForeground line needle) ↔ ∀ s, given s → s.IsTracked := by
  constructor
  · intro hreads s hs
    by_contra htracked
    have hpair {first second : Setting} (hfirst : given first) (hsecond : given second) :
        ReadsForeground (pairLine first second) ['x'] :=
      hreads _ _ (List.cons_ne_nil _ _) (by simp [pairLine, Item.settings, hfirst, hsecond])
    rcases not_readsForeground htracked with hbehind | hfront
    · exact hbehind (hpair hsample hs)
    · exact hfront (hpair hs hsample)
  · intro htracked line needle hne hgiven
    exact readsForeground_of_tracked hne fun item hitem s hs => htracked s (hgiven item hitem s hs)

/-- A character, a bold foreground, another character, and two more in front of which a background
and an underline are selected. -/
def paintedLine : List Item :=
  [.char 'a' (by decide),
    .select (.single "1".toList (by decide) (by decide)) [.components .foreground
      (.ofByte 10 (by decide)) (.ofByte 20 (by decide)) (.ofByte 30 (by decide))],
    .char 'b' (by decide),
    .select (.palette .background (.ofByte 0 (by decide))) [.components .underline
      (.ofByte 4 (by decide)) (.ofByte 5 (by decide)) (.ofByte 6 (by decide))],
    .char 'c' (by decide), .char 'd' (by decide)]

theorem readsForeground_iff_isTracked_paintedLine :
    sampleColour.IsTracked ∧ "cd".toList ≠ [] ∧
      (∀ item ∈ paintedLine, ∀ s ∈ item.settings, s.IsTracked) ∧
      ReadsForeground paintedLine "cd".toList ∧
      foregroundAt (paintedLine.flatMap Item.raw) "cd".toList = .ok (some ⟨10, 20, 30⟩) := by
  have hsample : sampleColour.IsTracked := by decide
  have hne : "cd".toList ≠ [] := by decide
  have htracked : ∀ item ∈ paintedLine, ∀ s ∈ item.settings, s.IsTracked := by decide
  have hreads := (readsForeground_iff_isTracked hsample).mpr fun s h => h
  exact ⟨hsample, hne, htracked, hreads paintedLine "cd".toList hne htracked, by decide⟩

/-- The foregrounds that have numbers of their own are not seen. -/
theorem not_readsForeground_named :
    ¬ ∀ line needle, needle ≠ [] → ReadsForeground line needle := by
  intro h
  have hpair := (h (pairLine sampleColour (.single "31".toList (by decide) (by decide))) ['x']
    (by decide)).foregroundAfter_pair
  revert hpair
  decide

end TermPilot.Screen
