import TermPilot.Emulator.Rendition
import TermPilot.Proofs.Emulator.Selection
import TermPilot.Proofs.Screen.Parameters

/-!
# A reader of styled text

The reader keeps a style, changes it at every sequence that selects one, and gives each character
the style that it finds it in. The sequences that are written for a style lead it to that style.
-/

namespace TermPilot.Emulator

open Terminal

/-! ## Reading -/

/-- The style after an escape sequence. One that selects styles resets the style if it has no
parameters, and selects by each of its parameters otherwise; any other changes nothing. -/
def Style.after (style : Style) (raw : Text) : Style :=
  match Screen.sgrParameters? raw with
  | none => style
  | some parameters =>
    if parameters.isEmpty then {}
    else style.selectAll ((Screen.splitParameters parameters).map fun digits =>
      Numeral.ofDigits 10 (digits.map fun c => c.toNat - '0'.toNat))

/-- The characters that pieces show, each in its style, and the style after them. -/
def readPieces (style : Style) : List Screen.Piece → List (Char × Style) × Style
  | [] => ([], style)
  | .char c :: rest => ((c, style) :: (readPieces style rest).1, (readPieces style rest).2)
  | .sequence raw :: rest => readPieces (style.after raw) rest

/-- Reads a text from a style on. -/
def readStyled (style : Style) (t : Text) : List (Char × Style) × Style :=
  readPieces style (Screen.pieces t)

section Reader

variable {style : Style} {numbers : List Nat}

theorem readStyled_append_of_not_mem {t : Text} (h : esc ∉ t) (style : Style) (rest : Text) :
    readStyled style (t ++ rest) =
      (t.map (·, style) ++ (readStyled style rest).1, (readStyled style rest).2) := by
  induction t with
  | nil => rfl
  | cons c t ih =>
    rw [List.mem_cons, not_or] at h
    have hpieces : Screen.pieces (c :: (t ++ rest)) = .char c :: Screen.pieces (t ++ rest) :=
      Screen.pieces_char (Ne.symm h.1)
    have hread : readStyled style (c :: (t ++ rest)) =
        ((c, style) :: (readStyled style (t ++ rest)).1, (readStyled style (t ++ rest)).2) := by
      rw [readStyled, hpieces]
      rfl
    rw [List.cons_append, hread, ih h.2]
    rfl

theorem readStyled_selection (numbers : List Nat) (style : Style) (rest : Text) :
    readStyled style (selection numbers ++ rest) =
      readStyled (style.after (selection numbers)) rest := by
  rw [readStyled, selection, Screen.pieces_sgr (isParameters_join numbers)]
  rfl

theorem isNumeric_map_digits (numbers : List Nat) :
    ∀ part ∈ numbers.map Double.digits, Screen.IsNumeric part := by
  intro part hpart
  obtain ⟨n, -, rfl⟩ := List.mem_map.mp hpart
  exact fun c hc => Double.isDigit_of_mem_digits hc

/-- The numbers that were written as parameters are the ones that are read. -/
theorem splitParameters_join (hne : numbers ≠ []) :
    Screen.splitParameters (Text.join [';'] (numbers.map Double.digits)) =
      numbers.map Double.digits := by
  have hjoined : Screen.IsSeparated (numbers.map Double.digits) _ :=
    Screen.isSeparated_join (by simpa using hne)
  refine hjoined.splitParameters_eq (isNumeric_map_digits numbers) fun hnil => ?_
  rw [hnil] at hjoined
  have hempty : [] ∈ numbers.map Double.digits := by
    rw [hjoined.of_nil]
    exact List.mem_singleton_self []
  obtain ⟨n, -, hn⟩ := List.mem_map.mp hempty
  exact Double.digits_ne_nil n hn

theorem after_selection (hne : numbers ≠ []) (style : Style) :
    style.after (selection numbers) = style.selectAll numbers := by
  have hwritten : ¬ (Text.join [';'] (numbers.map Double.digits)).isEmpty = true := by
    intro hempty
    have hsplit := splitParameters_join hne
    rw [List.isEmpty_iff.mp hempty] at hsplit
    exact hne (List.map_eq_nil_iff.mp hsplit.symm)
  have hvalue : (fun digits : Text =>
      Numeral.ofDigits 10 (digits.map fun c => c.toNat - '0'.toNat)) ∘ Double.digits = id :=
    funext Double.ofDigits_digits
  rw [Style.after, selection, Screen.sgrParameters?_sgr (isParameters_join numbers)]
  simp only [if_neg hwritten]
  rw [splitParameters_join hne, List.map_map, hvalue, List.map_id]

theorem after_reset (style : Style) : style.after reset = {} := by
  rw [reset_eq, Style.after, selection, Screen.sgrParameters?_sgr (isParameters_join [])]
  rfl

end Reader

/-! ## Selecting a style -/

/-- Parameters that take no colour from others select one after the other. -/
theorem selectAll_eq_foldl {codes : List Nat} (h : ∀ code ∈ codes, code ≠ 38 ∧ code ≠ 48)
    (style : Style) : style.selectAll codes = codes.foldl Style.select style := by
  induction codes generalizing style with
  | nil => rw [Style.selectAll, List.foldl_nil]
  | cons code codes ih =>
    obtain ⟨hcode, hcodes⟩ := List.forall_mem_cons.mp h
    rw [Style.selectAll, ih hcodes, List.foldl_cons]
    · exact hcode.1
    · exact hcode.2

theorem selectAll_foreground (style : Style) (red green blue : Nat) :
    style.selectAll [38, 2, red, green, blue] =
      { style with fg := hexColour red green blue } := by
  rw [Style.selectAll]
  show Style.selectAll _ [] = _
  rw [Style.selectAll]
  rfl

theorem selectAll_background (style : Style) (red green blue : Nat) :
    style.selectAll [48, 2, red, green, blue] =
      { style with bg := hexColour red green blue } := by
  rw [Style.selectAll]
  show Style.selectAll _ [] = _
  rw [Style.selectAll]
  rfl

theorem select_foreground {code : Nat} {name : Text} (h : nameOf? foregroundCodes code = some name)
    (style : Style) : style.select code = { style with fg := name } := by
  unfold Style.select
  rw [h]

theorem select_background {code : Nat} {name : Text} (hnot : nameOf? foregroundCodes code = none)
    (h : nameOf? backgroundCodes code = some name) (style : Style) :
    style.select code = { style with bg := name } := by
  unfold Style.select
  rw [hnot, h]

/-- A named colour of the foreground is selected by its code. -/
theorem selectAll_foregroundCode {name : String} {code : Nat}
    (h : (name, code) ∈ foregroundCodes) (style : Style) :
    style.selectAll [code] = { style with fg := name.toList } := by
  obtain ⟨-, hforeground, -, hbackground⟩ :=
    ne_of_mem_codes (List.mem_append_left backgroundCodes h)
  rw [selectAll_eq_foldl (by simpa using ⟨hforeground, hbackground⟩), List.foldl_cons,
    List.foldl_nil, select_foreground (nameOf?_foregroundCodes h)]

/-- A named colour of the background is selected by its code. -/
theorem selectAll_backgroundCode {name : String} {code : Nat}
    (h : (name, code) ∈ backgroundCodes) (style : Style) :
    style.selectAll [code] = { style with bg := name.toList } := by
  obtain ⟨-, hforeground, -, hbackground⟩ :=
    ne_of_mem_codes (List.mem_append_right foregroundCodes h)
  obtain ⟨hnot, hname⟩ := nameOf?_backgroundCodes h
  rw [selectAll_eq_foldl (by simpa using ⟨hforeground, hbackground⟩), List.foldl_cons,
    List.foldl_nil, select_background hnot hname]

theorem mem_attributeCodes {style : Style} {code : Nat} (h : code ∈ style.attributeCodes) :
    code ∈ [1, 3, 4, 5, 7, 9] := by
  obtain ⟨⟨given, known⟩, hmem, hgiven⟩ := List.mem_filterMap.mp h
  have hknown : known ∈ [1, 3, 4, 5, 7, 9] := List.mem_map_of_mem (f := Prod.snd) hmem
  cases given with
  | true => rwa [← Option.some.inj hgiven]
  | false => cases hgiven

/-- The codes of the attributes of a style select them. -/
theorem selectAll_attributeCodes (style : Style) :
    ({} : Style).selectAll style.attributeCodes =
      { style with fg := "default".toList, bg := "default".toList } := by
  have hplain : ∀ code ∈ [1, 3, 4, 5, 7, 9], code ≠ 38 ∧ code ≠ 48 := by decide
  rw [selectAll_eq_foldl fun code hcode => hplain code (mem_attributeCodes hcode)]
  obtain ⟨fg, bg, bold, italics, underscore, blink, reverse, strikethrough⟩ := style
  cases bold <;> cases italics <;> cases underscore <;> cases blink <;> cases reverse <;>
    cases strikethrough <;> rfl

/-! ## Colours of six digits -/

theorem hexPart?_pair : ∀ i < 16, ∀ j < 16,
    hexPart? [Nat.digitChar i, Nat.digitChar j] = some ((16 * i + j : Nat) : Int) := by decide

theorem hexDigits_pair : ∀ i < 16, ∀ j < 16,
    Text.hexDigits 2 (16 * i + j) = [Nat.digitChar i, Nat.digitChar j] := by decide

theorem exists_hexDigits {n : Nat} (h : n < 256) :
    ∃ i < 16, ∃ j < 16, n = 16 * i + j := ⟨n / 16, by omega, n % 16, by omega, by omega⟩

/-- The parts of a colour are read back from its six digits. -/
theorem hexParts?_hexColour {red green blue : Nat} (hred : red < 256) (hgreen : green < 256)
    (hblue : blue < 256) :
    hexParts? (hexColour red green blue) = some ((red : Int), (green : Int), (blue : Int)) := by
  obtain ⟨a, ha, b, hb, rfl⟩ := exists_hexDigits hred
  obtain ⟨c, hc, d, hd, rfl⟩ := exists_hexDigits hgreen
  obtain ⟨e, he, f, hf, rfl⟩ := exists_hexDigits hblue
  rw [hexColour, hexDigits_pair a ha b hb, hexDigits_pair c hc d hd, hexDigits_pair e he f hf]
  simp only [List.cons_append, List.nil_append]
  rw [hexParts?, hexPart?_pair a ha b hb, hexPart?_pair c hc d hd, hexPart?_pair e he f hf]
  rfl

/-- A colour of six digits is the one that its parts make up. -/
theorem IsHexColour.exists_parts {colour : Text} (h : IsHexColour colour) :
    ∃ red < 256, ∃ green < 256, ∃ blue < 256, hexColour red green blue = colour := by
  obtain ⟨hlength, hdigits⟩ := h
  have hrange : "0123456789abcdef".toList = (List.range 16).map Nat.digitChar := by decide
  have hdigit : ∀ c ∈ "0123456789abcdef".toList, ∃ i < 16, c = Nat.digitChar i := by
    intro c hc
    rw [hrange] at hc
    obtain ⟨i, hi, rfl⟩ := List.mem_map.mp hc
    exact ⟨i, List.mem_range.mp hi, rfl⟩
  match colour, hlength with
  | [_, _, _, _, _, _], _ =>
    simp only [List.forall_mem_cons] at hdigits
    obtain ⟨h1, h2, h3, h4, h5, h6, -⟩ := hdigits
    obtain ⟨a, ha, rfl⟩ := hdigit _ h1
    obtain ⟨b, hb, rfl⟩ := hdigit _ h2
    obtain ⟨c, hc, rfl⟩ := hdigit _ h3
    obtain ⟨d, hd, rfl⟩ := hdigit _ h4
    obtain ⟨e, he, rfl⟩ := hdigit _ h5
    obtain ⟨f, hf, rfl⟩ := hdigit _ h6
    refine ⟨16 * a + b, by omega, 16 * c + d, by omega, 16 * e + f, by omega, ?_⟩
    rw [hexColour, hexDigits_pair a ha b hb, hexDigits_pair c hc d hd, hexDigits_pair e he f hf]
    rfl

/-! ## Texts that lead a reader from one style to another -/

/-- The text shows nothing and leads a reader from one style to another. -/
def Leads (t : Text) (first last : Style) : Prop :=
  ∀ rest, readStyled first (t ++ rest) = readStyled last rest

section Leads

variable {a b : Text} {first second third : Style}

theorem leads_nil (style : Style) : Leads [] style style := fun _ => rfl

theorem Leads.append (ha : Leads a first second) (hb : Leads b second third) :
    Leads (a ++ b) first third := by
  intro rest
  rw [List.append_assoc, ha, hb]

theorem leads_selection {numbers : List Nat} (hne : numbers ≠ []) (style : Style) :
    Leads (selection numbers) style (style.selectAll numbers) := by
  intro rest
  rw [readStyled_selection, after_selection hne]

theorem leads_leave (style : Style) : Leads style.leave style {} := by
  unfold Style.leave
  split
  · next h => rw [h]; exact leads_nil {}
  · intro rest
    rw [reset_eq, readStyled_selection, ← reset_eq, after_reset]

theorem leads_attributeSequence (style : Style) :
    Leads style.attributeSequence {}
      { style with fg := "default".toList, bg := "default".toList } := by
  rw [attributeSequence_eq, ← selectAll_attributeCodes]
  split
  · next h => rw [h, Style.selectAll]; exact leads_nil {}
  · next h => exact leads_selection h {}

/-- The sequence of a colour sets the colour, on a ground that has none yet. -/
theorem leads_colourSequence {codes : List (String × Nat)} {extended : Nat} {colour : Text}
    (set : Style → Text → Style)
    (hnamed : ∀ named ∈ codes, ∀ style, style.selectAll [named.2] = set style named.1.toList)
    (hparts : ∀ red green blue style,
      style.selectAll [extended, 2, red, green, blue] = set style (hexColour red green blue))
    (h : IsColour codes colour) {style : Style} (hnone : set style "default".toList = style) :
    Leads (colourSequence codes extended colour) style (set style colour) := by
  by_cases hdefault : colour = "default".toList
  · rw [hdefault, colourSequence_default, hnone]
    exact leads_nil style
  cases hcode : codeOf? codes colour with
  | some code =>
    obtain ⟨named, hfound, rfl⟩ := Option.map_eq_some_iff.mp hcode
    have hmem := List.mem_of_find?_eq_some hfound
    have hname : named.1.toList = colour := by simpa using List.find?_some hfound
    rw [colourSequence_named hdefault hcode, ← hname, ← hnamed named hmem]
    exact leads_selection (List.cons_ne_nil _ _) style
  | none =>
    -- a name would have been found, so the colour is made of digits
    have hhex : IsHexColour colour := by
      refine (h.resolve_left hdefault).resolve_left fun hname => ?_
      obtain ⟨named, hmem, hname⟩ := List.mem_map.mp hname
      have hnone := List.find?_eq_none.mp (Option.map_eq_none_iff.mp hcode) named hmem
      exact hnone (by simpa using hname)
    obtain ⟨red, hred, green, hgreen, blue, hblue, rfl⟩ := hhex.exists_parts
    rw [colourSequence_parts hdefault hcode (hexParts?_hexColour hred hgreen hblue), ← hparts]
    exact leads_selection (List.cons_ne_nil _ _) style

theorem Style.IsSelectable.leads_sequence {style : Style} (h : style.IsSelectable) :
    Leads style.sequence {} style := by
  have hforeground : Leads (colourSequence foregroundCodes 38 style.fg)
      { style with fg := "default".toList, bg := "default".toList }
      { style with bg := "default".toList } :=
    leads_colourSequence (fun style colour => { style with fg := colour })
      (fun _ hmem style => selectAll_foregroundCode hmem style)
      (fun red green blue style => selectAll_foreground style red green blue) h.fg rfl
  have hbackground : Leads (colourSequence backgroundCodes 48 style.bg)
      { style with bg := "default".toList } style :=
    leads_colourSequence (fun style colour => { style with bg := colour })
      (fun _ hmem style => selectAll_backgroundCode hmem style)
      (fun red green blue style => selectAll_background style red green blue) h.bg rfl
  exact ((leads_attributeSequence style).append hforeground).append hbackground

end Leads

end TermPilot.Emulator
