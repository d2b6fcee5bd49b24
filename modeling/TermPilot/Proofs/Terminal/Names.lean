import TermPilot.Terminal.Names
import TermPilot.Proofs.Number.Decimal
import TermPilot.Proofs.Text.Parts

/-!
# Fresh names are fresh

One counter numbers the names and the markers of a source. Names of a source differ in the digits
that they end in. Markers keep these digits, since neither the upper case nor low lines for hyphens
change them, and end in a low line themselves, which no name does.
-/

namespace TermPilot

namespace Text

theorem upper_append (s t : Text) : upper (s ++ t) = upper s ++ upper t := List.flatMap_append

theorem replaceChar_append (old new : Char) (s t : Text) :
    replaceChar old new (s ++ t) = replaceChar old new s ++ replaceChar old new t :=
  List.map_append

theorem upperChar_of_isDigit {c : Char} (h : c.isDigit = true) : upperChar c = [c] := by
  have hlast : c.toNat ≤ 57 := (Char.isDigit_iff_toNat.mp h).2
  have hlower : ¬ (c.val ≥ 'a'.val ∧ c.val ≤ 'z'.val) := by
    rintro ⟨ha, -⟩
    have ha : 97 ≤ c.toNat := UInt32.le_iff_toNat_le.mp ha
    omega
  have hupper : c.toUpper = c := dif_neg hlower
  rw [upperChar, if_pos (by omega), hupper]

theorem upper_of_digits {t : Text} (h : ∀ c ∈ t, c.isDigit = true) : upper t = t := by
  induction t with
  | nil => rfl
  | cons c t ih =>
    obtain ⟨hc, hlater⟩ := List.forall_mem_cons.mp h
    rw [upper, List.flatMap_cons, upperChar_of_isDigit hc]
    exact congrArg (c :: ·) (ih hlater)

end Text

namespace NameSource

/-! ## Spelling -/

section Spelling

variable {source : NameSource} {m n : Nat}

/-- What the names of a source begin with. -/
def head (source : NameSource) : Text :=
  source.stem ++ '-' :: (toString source.process).toList ++ ['-']

/-- What the markers of a source begin with. -/
def markerHead (source : NameSource) : Text :=
  "__".toList ++ Text.replaceChar '-' '_' (Text.upper source.head)

theorem nameOf_eq (source : NameSource) (n : Nat) :
    source.nameOf n = source.head ++ Double.digits n := by
  have hhyphen : (toString "-").toList = ['-'] := rfl
  rw [nameOf, head, ← Double.toList_toString]
  simp [hhyphen]

theorem markerOf_nameOf (source : NameSource) (n : Nat) :
    markerOf (source.nameOf n) = source.markerHead ++ Double.digits n ++ "_READY__".toList := by
  have hupper : Text.upper (Double.digits n) = Double.digits n :=
    Text.upper_of_digits fun _ hc => Double.isDigit_of_mem_digits hc
  have hhyphens : Text.replaceChar '-' '_' (Double.digits n) = Double.digits n :=
    Text.replaceChar_eq_self (Double.not_mem_digits (by decide) n)
  rw [markerOf, nameOf_eq, Text.upper_append, hupper, Text.replaceChar_append, hhyphens,
    markerHead]
  simp only [List.append_assoc]

theorem nameOf_inj (h : source.nameOf m = source.nameOf n) : m = n := by
  rw [nameOf_eq, nameOf_eq] at h
  exact Double.digits_injective (List.append_cancel_left h)

theorem markerOf_nameOf_inj (h : markerOf (source.nameOf m) = markerOf (source.nameOf n)) :
    m = n := by
  rw [markerOf_nameOf, markerOf_nameOf] at h
  exact Double.digits_injective (List.append_cancel_left (List.append_cancel_right h))

/-- A name ends in a digit, a marker does not. -/
theorem nameOf_ne_markerOf : source.nameOf m ≠ markerOf (source.nameOf n) := by
  intro h
  have hname : ∃ c ∈ (source.nameOf m).getLast?, c.isDigit = true := by
    have hne := Double.digits_ne_nil m
    refine ⟨(Double.digits m).getLast hne, ?_,
      Double.isDigit_of_mem_digits (List.getLast_mem hne)⟩
    rw [nameOf_eq, List.getLast?_append_of_ne_nil _ hne, List.getLast?_eq_getLast_of_ne_nil hne]
    rfl
  have hmarker : (markerOf (source.nameOf n)).getLast? = some '_' := by
    rw [markerOf_nameOf, List.getLast?_append_of_ne_nil _ (by decide)]
    rfl
  obtain ⟨c, hc, hdigit⟩ := hname
  rw [h, hmarker] at hc
  obtain rfl := Option.some.inj hc
  exact absurd hdigit (by decide)

end Spelling

/-! ## Requests -/

/-- What a source can be asked for. -/
inductive Request where
  | name
  | marker

/-- A source answers a request. -/
def answer (source : NameSource) : Request → Text × NameSource
  | .name => source.fresh
  | .marker => source.freshMarker

/-- What a source hands out, request after request. -/
def handOut (source : NameSource) : List Request → List Text
  | [] => []
  | request :: later =>
    let (text, source) := source.answer request
    text :: source.handOut later

/-- The answer to a request when the counter is at a number. -/
def textOf (source : NameSource) (number : Nat) : Request → Text
  | .name => source.nameOf number
  | .marker => markerOf (source.nameOf number)

section Requests

variable {source : NameSource} {requests : List Request} {text : Text}

theorem textOf_inj {m n : Nat} {first second : Request}
    (h : source.textOf m first = source.textOf n second) : m = n := by
  cases first <;> cases second
  case name.name => exact nameOf_inj h
  case name.marker => exact absurd h nameOf_ne_markerOf
  case marker.name => exact absurd h.symm nameOf_ne_markerOf
  case marker.marker => exact markerOf_nameOf_inj h

theorem answer_eq (source : NameSource) (request : Request) :
    source.answer request =
      (source.textOf source.next request, { source with next := source.next + 1 }) := by
  cases request <;> rfl

theorem handOut_cons (source : NameSource) (request : Request) (later : List Request) :
    source.handOut (request :: later) = source.textOf source.next request ::
      { source with next := source.next + 1 }.handOut later := by
  rw [handOut, answer_eq]

/-- What is handed out carries a number that the counter had not passed. -/
theorem exists_of_mem_handOut (h : text ∈ source.handOut requests) :
    ∃ number ≥ source.next, ∃ request, text = source.textOf number request := by
  induction requests generalizing source with
  | nil => cases h
  | cons request later ih =>
    rw [handOut_cons] at h
    rcases List.mem_cons.mp h with rfl | hlater
    · exact ⟨source.next, le_rfl, request, rfl⟩
    · obtain ⟨number, hnumber, found, rfl⟩ := ih hlater
      exact ⟨number, Nat.le_of_succ_le hnumber, found, rfl⟩

/-- Whatever a source is asked for, each request gets a text and no text comes twice. -/
theorem nodup_handOut (source : NameSource) (requests : List Request) :
    (source.handOut requests).length = requests.length ∧ (source.handOut requests).Nodup := by
  induction requests generalizing source with
  | nil => exact ⟨rfl, .nil⟩
  | cons request later ih =>
    obtain ⟨hlength, hnodup⟩ := ih { source with next := source.next + 1 }
    rw [handOut_cons]
    refine ⟨congrArg (· + 1) hlength, List.nodup_cons.mpr ⟨?_, hnodup⟩⟩
    intro hmem
    obtain ⟨number, hnumber, found, htext⟩ := exists_of_mem_handOut hmem
    -- the counter is not part of a text
    change source.textOf source.next request = source.textOf number found at htext
    have hsame : source.next = number := textOf_inj htext
    have hlater : source.next + 1 ≤ number := hnumber
    omega

end Requests

end NameSource

end TermPilot
