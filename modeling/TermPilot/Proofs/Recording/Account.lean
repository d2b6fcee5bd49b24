import Mathlib.Data.List.Forall2
import TermPilot.Proofs.Recording.Payload

/-!
# What becomes of the lines of a recording

Reading a recording loses no line, uses none twice and keeps their order. An account of a recording
says of every event which lines it comes from; together with the warnings it covers every key line
and every directive exactly once.
-/

namespace TermPilot.Recording

/-! ## Accounts -/

/-- A line without blanks around it, and its number. -/
abbrev NumberedLine := Text × Nat

/-- The lines of a recording without the blanks around them, numbered from one. -/
def numberedLines (t : Text) : List NumberedLine :=
  ((Text.splitOn '\n' t).map Text.trim).zipIdx 1

/-- Events, each with the numbers of the lines that it comes from. -/
abbrev Account := List (RecordedEvent × List Nat)

/-- The key lines among lines. -/
def keyLines (lines : List NumberedLine) : List Text :=
  (lines.filter fun line => decide (IsKeyLine line.1)).map Prod.fst

/-- The two lines are behind the same batch of keys. -/
def Together (account : Account) (first second : Nat) : Prop :=
  ∃ names numbers, (.keys names, numbers) ∈ account ∧ first ∈ numbers ∧ second ∈ numbers

/-- A line between the two lines ends a batch. -/
def Separated (lines : List NumberedLine) (first second : Nat) : Prop :=
  ∃ line ∈ lines, first < line.2 ∧ line.2 < second ∧ Separates line.1

/-- The event is what the lines with these numbers say. -/
inductive ComesFrom (lines : List NumberedLine) : RecordedEvent → List Nat → Prop where
  /-- A batch of keys comes from the lines that name its keys, one after the other. -/
  | batch {names : List Text} {numbers : List Nat} (hne : names ≠ [])
      (hlines : List.Forall₂ (fun name number => (name, number) ∈ lines ∧ IsKeyLine name)
        names numbers) : ComesFrom lines (.keys names) numbers
  /-- Any other event comes from the directive that says it. -/
  | directive {kind payload line : Text} {number : Nat} {event : RecordedEvent}
      (hline : (line, number) ∈ lines) (hdirective : IsDirective kind payload line)
      (hevent : eventOf kind payload = .ok (some event)) (hbatch : ¬ IsBatch event) :
      ComesFrom lines event [number]

/-- The account covers the lines: it lists the events, each with the numbers of the lines that it
comes from, and the warnings cover the directives that are malformed. As the numbers increase
strictly, no line is behind two events or two warnings. -/
structure Accounts (lines : List NumberedLine) (account : Account)
    (warnings : List RecordingWarning) : Prop where
  /-- Every event is what its lines say. -/
  comesFrom : ∀ entry ∈ account, ComesFrom lines entry.1 entry.2
  /-- The keys of all batches are the key lines, in order. -/
  keys : account.flatMap (fun entry => keysOf entry.1) = keyLines lines
  /-- Every key line is behind a batch. -/
  covered : ∀ line ∈ lines, IsKeyLine line.1 → Together account line.2 line.2
  /-- Two key lines are behind the same batch exactly if no line between them separates them. -/
  together : ∀ first ∈ lines, ∀ second ∈ lines, IsKeyLine first.1 → IsKeyLine second.1 →
    first.2 < second.2 →
      (Together account first.2 second.2 ↔ ¬ Separated lines first.2 second.2)
  /-- Every directive is behind one event and no warning, or behind one warning and no event. -/
  directives : ∀ line ∈ lines, ∀ kind payload, IsDirective kind payload line.1 →
    (∃ event, eventOf kind payload = .ok (some event) ∧ ¬ IsBatch event ∧
        (event, [line.2]) ∈ account ∧ ∀ warning ∈ warnings, warning.lineNumber ≠ line.2) ∨
      (eventOf kind payload = .ok none ∧ ⟨kind, line.2, line.1⟩ ∈ warnings ∧
        ∀ entry ∈ account, line.2 ∉ entry.2)
  /-- Every warning is about a directive. -/
  warned : ∀ warning ∈ warnings, (warning.line, warning.lineNumber) ∈ lines ∧
    ∃ payload, IsDirective warning.kind payload warning.line
  /-- The events follow the order of their lines. -/
  inOrder : (account.flatMap Prod.snd).Pairwise (· < ·)
  /-- The warnings follow the order of their lines. -/
  warningsInOrder : (warnings.map RecordingWarning.lineNumber).Pairwise (· < ·)

/-! ## Lines behind events -/

section Lines

variable {lines more : List NumberedLine} {account later : Account}
  {warnings : List RecordingWarning} {event : RecordedEvent} {numbers : List Nat}

theorem ComesFrom.mono (hsub : ∀ line ∈ lines, line ∈ more) (h : ComesFrom lines event numbers) :
    ComesFrom more event numbers := by
  cases h with
  | batch hne hlines =>
    exact .batch hne (hlines.imp fun name number hline => ⟨hsub _ hline.1, hline.2⟩)
  | directive hline hdirective hevent hbatch =>
    exact .directive (hsub _ hline) hdirective hevent hbatch

theorem ComesFrom.mem_lines (h : ComesFrom lines event numbers) {number : Nat}
    (hnumber : number ∈ numbers) : ∃ line ∈ lines, line.2 = number := by
  cases h with
  | batch hne hlines =>
    obtain ⟨i, hi, rfl⟩ := List.getElem_of_mem hnumber
    have hname := hlines.get (by rw [hlines.length_eq]; exact hi) hi
    exact ⟨_, hname.1, rfl⟩
  | directive hline _ _ _ =>
    obtain rfl := List.mem_singleton.mp hnumber
    exact ⟨_, hline, rfl⟩

theorem Accounts.mem_lines (h : Accounts lines account warnings) {entry : RecordedEvent × List Nat}
    (hentry : entry ∈ account) {number : Nat} (hnumber : number ∈ entry.2) :
    ∃ line ∈ lines, line.2 = number :=
  (h.comesFrom entry hentry).mem_lines hnumber

/-- No warning is about a line that is not there. -/
theorem Accounts.lineNumber_ne (h : Accounts lines account warnings) {number : Nat}
    (hapart : ∀ line ∈ lines, line.2 ≠ number) :
    ∀ warning ∈ warnings, warning.lineNumber ≠ number :=
  fun warning hwarning => hapart _ (h.warned warning hwarning).1

/-- No event comes from a line that is not there. -/
theorem Accounts.not_mem_numbers (h : Accounts lines account warnings) {number : Nat}
    (hapart : ∀ line ∈ lines, line.2 ≠ number) : ∀ entry ∈ account, number ∉ entry.2 := by
  intro entry hentry hnumber
  obtain ⟨line, hline, heq⟩ := h.mem_lines hentry hnumber
  exact hapart line hline heq

theorem together_append {first second : Nat} :
    Together (account ++ later) first second ↔
      Together account first second ∨ Together later first second := by
  simp only [Together, List.mem_append, or_and_right, exists_or]

theorem separated_append {first second : Nat} :
    Separated (lines ++ more) first second ↔
      Separated lines first second ∨ Separated more first second := by
  simp only [Separated, List.mem_append, or_and_right, exists_or]

theorem keyLines_append : keyLines (lines ++ more) = keyLines lines ++ keyLines more := by
  simp only [keyLines, List.filter_append, List.map_append]

theorem Accounts.exists_line_of_together (h : Accounts lines account warnings)
    {first second : Nat} (htogether : Together account first second) :
    (∃ line ∈ lines, line.2 = first) ∧ ∃ line ∈ lines, line.2 = second := by
  obtain ⟨names, numbers, hentry, hfirst, hsecond⟩ := htogether
  exact ⟨h.mem_lines hentry hfirst, h.mem_lines hentry hsecond⟩

end Lines

/-! ## Accounts one after the other -/

section Append

variable {lines more : List NumberedLine} {account later : Account}
  {warnings laterWarnings : List RecordingWarning}

/-- The lines stand before the others. -/
def Before (lines more : List NumberedLine) : Prop :=
  ∀ line ∈ lines, ∀ other ∈ more, line.2 < other.2

/-- Behind a batch that covers a line of the first part there are only lines of that part. -/
theorem Accounts.together_append_left (h : Accounts more later laterWarnings)
    (hbefore : Before lines more) {first : NumberedLine} (hfirst : first ∈ lines) {second : Nat} :
    Together (account ++ later) first.2 second ↔ Together account first.2 second := by
  rw [together_append, or_iff_left]
  intro htogether
  obtain ⟨⟨line, hline, heq⟩, -⟩ := h.exists_line_of_together htogether
  have hlt := hbefore first hfirst line hline
  omega

/-- Behind a batch that covers a line of the second part there are only lines of that part. -/
theorem Accounts.together_append_right (h : Accounts lines account warnings)
    (hbefore : Before lines more) {second : NumberedLine} (hsecond : second ∈ more) {first : Nat} :
    Together (account ++ later) first second.2 ↔ Together later first second.2 := by
  rw [together_append, or_iff_right]
  intro htogether
  obtain ⟨-, line, hline, heq⟩ := h.exists_line_of_together htogether
  have hlt := hbefore line hline second hsecond
  omega

theorem separated_append_left (hbefore : Before lines more) {second : NumberedLine}
    (hsecond : second ∈ lines) {first : Nat} :
    Separated (lines ++ more) first second.2 ↔ Separated lines first second.2 := by
  rw [separated_append, or_iff_left]
  rintro ⟨line, hline, -, hlt, -⟩
  have hgt := hbefore second hsecond line hline
  omega

theorem separated_append_right (hbefore : Before lines more) {first : NumberedLine}
    (hfirst : first ∈ more) {second : Nat} :
    Separated (lines ++ more) first.2 second ↔ Separated more first.2 second := by
  rw [separated_append, or_iff_right]
  rintro ⟨line, hline, hlt, -, -⟩
  have hgt := hbefore line hline first hfirst
  omega

/-- The accounts of two runs of lines make up an account of both if a line ends the batch between
any key line of the first and any key line of the second. -/
theorem Accounts.append (h : Accounts lines account warnings)
    (hlater : Accounts more later laterWarnings) (hbefore : Before lines more)
    (hseparated : ∀ first ∈ lines, ∀ second ∈ more, IsKeyLine first.1 → IsKeyLine second.1 →
      Separated (lines ++ more) first.2 second.2) :
    Accounts (lines ++ more) (account ++ later) (warnings ++ laterWarnings) where
  comesFrom := by
    intro entry hentry
    rcases List.mem_append.mp hentry with hentry | hentry
    · exact (h.comesFrom entry hentry).mono fun _ => List.mem_append_left more
    · exact (hlater.comesFrom entry hentry).mono fun _ => List.mem_append_right lines
  keys := by rw [List.flatMap_append, h.keys, hlater.keys, keyLines_append]
  covered := by
    intro line hline hkey
    rw [together_append]
    rcases List.mem_append.mp hline with hline | hline
    · exact Or.inl (h.covered line hline hkey)
    · exact Or.inr (hlater.covered line hline hkey)
  together := by
    intro first hfirst second hsecond hfirstKey hsecondKey hlt
    rcases List.mem_append.mp hfirst with hfirst | hfirst <;>
      rcases List.mem_append.mp hsecond with hsecond | hsecond
    · rw [hlater.together_append_left hbefore hfirst, separated_append_left hbefore hsecond]
      exact h.together first hfirst second hsecond hfirstKey hsecondKey hlt
    · have hsep := hseparated first hfirst second hsecond hfirstKey hsecondKey
      rw [hlater.together_append_left hbefore hfirst]
      refine iff_of_false ?_ (not_not_intro hsep)
      intro htogether
      obtain ⟨-, line, hline, heq⟩ := h.exists_line_of_together htogether
      have hlt := hbefore line hline second hsecond
      omega
    · have hgt := hbefore second hsecond first hfirst
      omega
    · rw [h.together_append_right hbefore hsecond, separated_append_right hbefore hfirst]
      exact hlater.together first hfirst second hsecond hfirstKey hsecondKey hlt
  directives := by
    intro line hline kind payload hdirective
    rcases List.mem_append.mp hline with hline | hline
    · have hapart : ∀ other ∈ more, other.2 ≠ line.2 :=
        fun other hother => Nat.ne_of_gt (hbefore line hline other hother)
      rcases h.directives line hline kind payload hdirective with
        ⟨event, hevent, hbatch, hentry, hnone⟩ | ⟨hnone, hwarning, hentries⟩
      · exact Or.inl ⟨event, hevent, hbatch, List.mem_append_left _ hentry,
          List.forall_mem_append.mpr ⟨hnone, hlater.lineNumber_ne hapart⟩⟩
      · exact Or.inr ⟨hnone, List.mem_append_left _ hwarning,
          List.forall_mem_append.mpr ⟨hentries, hlater.not_mem_numbers hapart⟩⟩
    · have hapart : ∀ other ∈ lines, other.2 ≠ line.2 :=
        fun other hother => Nat.ne_of_lt (hbefore other hother line hline)
      rcases hlater.directives line hline kind payload hdirective with
        ⟨event, hevent, hbatch, hentry, hnone⟩ | ⟨hnone, hwarning, hentries⟩
      · exact Or.inl ⟨event, hevent, hbatch, List.mem_append_right _ hentry,
          List.forall_mem_append.mpr ⟨h.lineNumber_ne hapart, hnone⟩⟩
      · exact Or.inr ⟨hnone, List.mem_append_right _ hwarning,
          List.forall_mem_append.mpr ⟨h.not_mem_numbers hapart, hentries⟩⟩
  warned := by
    intro warning hwarning
    rcases List.mem_append.mp hwarning with hwarning | hwarning
    · obtain ⟨hline, hdirective⟩ := h.warned warning hwarning
      exact ⟨List.mem_append_left _ hline, hdirective⟩
    · obtain ⟨hline, hdirective⟩ := hlater.warned warning hwarning
      exact ⟨List.mem_append_right _ hline, hdirective⟩
  inOrder := by
    rw [List.flatMap_append, List.pairwise_append]
    refine ⟨h.inOrder, hlater.inOrder, ?_⟩
    intro number hnumber other hother
    obtain ⟨entry, hentry, hnumber⟩ := List.mem_flatMap.mp hnumber
    obtain ⟨laterEntry, hlaterEntry, hother⟩ := List.mem_flatMap.mp hother
    obtain ⟨line, hline, rfl⟩ := h.mem_lines hentry hnumber
    obtain ⟨otherLine, hotherLine, rfl⟩ := hlater.mem_lines hlaterEntry hother
    exact hbefore line hline otherLine hotherLine
  warningsInOrder := by
    rw [List.map_append, List.pairwise_append]
    refine ⟨h.warningsInOrder, hlater.warningsInOrder, ?_⟩
    intro number hnumber other hother
    obtain ⟨warning, hwarning, rfl⟩ := List.mem_map.mp hnumber
    obtain ⟨laterWarning, hlaterWarning, rfl⟩ := List.mem_map.mp hother
    exact hbefore _ (h.warned warning hwarning).1 _ (hlater.warned laterWarning hlaterWarning).1

end Append

/-! ## Accounts of single lines and of batches -/

/-- A line that neither names a key nor says anything else changes no account. -/
theorem Accounts.insert_comment {before after : List NumberedLine} {account : Account}
    {warnings : List RecordingWarning} {line : NumberedLine} (hcomment : IsComment line.1)
    (h : Accounts (before ++ after) account warnings) :
    Accounts (before ++ line :: after) account warnings := by
  have hsub : ∀ other ∈ before ++ after, other ∈ before ++ line :: after := by
    intro other hother
    rcases List.mem_append.mp hother with hother | hother
    · exact List.mem_append_left _ hother
    · exact List.mem_append_right _ (List.mem_cons_of_mem _ hother)
  have hmem : ∀ other ∈ before ++ line :: after, ¬ IsComment other.1 → other ∈ before ++ after := by
    intro other hother hother'
    rcases List.mem_append.mp hother with hother | hother
    · exact List.mem_append_left _ hother
    · rcases List.mem_cons.mp hother with rfl | hother
      · exact absurd hcomment hother'
      · exact List.mem_append_right _ hother
  have hkeys : keyLines (before ++ line :: after) = keyLines (before ++ after) := by
    have hno : ¬ IsKeyLine line.1 := fun hkey => hkey.not_isComment hcomment
    simp [keyLines, hno]
  have hseparated : ∀ first second, Separated (before ++ line :: after) first second ↔
      Separated (before ++ after) first second := by
    intro first second
    constructor
    · rintro ⟨other, hother, hlt, hgt, hsep⟩
      exact ⟨other, hmem other hother fun hc => hc.not_separates hsep, hlt, hgt, hsep⟩
    · rintro ⟨other, hother, hrest⟩
      exact ⟨other, hsub other hother, hrest⟩
  constructor
  case comesFrom => exact fun entry hentry => (h.comesFrom entry hentry).mono hsub
  case keys => rw [hkeys]; exact h.keys
  case covered =>
    intro other hother hkey
    exact h.covered other (hmem other hother hkey.not_isComment) hkey
  case together =>
    intro first hfirst second hsecond hfirstKey hsecondKey hlt
    rw [hseparated]
    exact h.together first (hmem first hfirst hfirstKey.not_isComment) second
      (hmem second hsecond hsecondKey.not_isComment) hfirstKey hsecondKey hlt
  case directives =>
    intro other hother kind payload hdirective
    exact h.directives other (hmem other hother hdirective.not_isComment) kind payload hdirective
  case warned =>
    intro warning hwarning
    obtain ⟨hline, hdirective⟩ := h.warned warning hwarning
    exact ⟨hsub _ hline, hdirective⟩
  case inOrder => exact h.inOrder
  case warningsInOrder => exact h.warningsInOrder

/-- The account of key lines that follow one another. -/
def batchAccount (pending : List NumberedLine) : Account :=
  if pending.isEmpty then [] else [(.keys (pending.map Prod.fst), pending.map Prod.snd)]

theorem batchAccount_of_ne_nil {pending : List NumberedLine} (h : pending ≠ []) :
    batchAccount pending = [(.keys (pending.map Prod.fst), pending.map Prod.snd)] := by
  rw [batchAccount, if_neg (by simpa using h)]

theorem batchAccount_events (pending : List NumberedLine) :
    (batchAccount pending).map Prod.fst = batchEvent (pending.map Prod.fst) := by
  by_cases hnil : pending = []
  · rw [hnil]
    rfl
  · rw [batchAccount_of_ne_nil hnil, batchEvent_of_ne_nil (by simpa using hnil)]
    rfl

/-- Lines that all name keys are one batch. -/
theorem accounts_batch {pending : List NumberedLine} (hkeys : ∀ line ∈ pending, IsKeyLine line.1)
    (horder : (pending.map Prod.snd).Pairwise (· < ·)) :
    Accounts pending (batchAccount pending) [] := by
  by_cases hnil : pending = []
  · subst hnil
    constructor <;> simp [batchAccount, keyLines]
  have haccount := batchAccount_of_ne_nil hnil
  have htogether : ∀ first ∈ pending, ∀ second ∈ pending,
      Together (batchAccount pending) first.2 second.2 := by
    intro first hfirst second hsecond
    rw [haccount]
    exact ⟨_, _, List.mem_singleton_self _, List.mem_map_of_mem hfirst,
      List.mem_map_of_mem hsecond⟩
  constructor
  case comesFrom =>
    intro entry hentry
    rw [haccount, List.mem_singleton] at hentry
    subst hentry
    refine .batch (by simpa using hnil) ?_
    rw [List.forall₂_map_left_iff, List.forall₂_map_right_iff, List.forall₂_same]
    exact fun line hline => ⟨hline, hkeys line hline⟩
  case keys =>
    have hall : pending.filter (fun line => decide (IsKeyLine line.1)) = pending :=
      List.filter_eq_self.mpr fun line hline => decide_eq_true (hkeys line hline)
    rw [haccount, keyLines, hall]
    simp [keysOf]
  case covered => exact fun line hline _ => htogether line hline line hline
  case together =>
    intro first hfirst second hsecond _ _ _
    refine iff_of_true (htogether first hfirst second hsecond) ?_
    rintro ⟨line, hline, -, -, hsep⟩
    exact (hkeys line hline).not_separates hsep
  case directives =>
    intro line hline kind payload hdirective
    exact absurd hdirective ((hkeys line hline).2.2 kind payload)
  case warned => exact fun warning hwarning => absurd hwarning List.not_mem_nil
  case inOrder => rw [haccount]; simpa using horder
  case warningsInOrder => exact List.Pairwise.nil

section Single

variable {kind payload line : Text} {number : Nat}

theorem accounts_blank : Accounts [([], number)] [] [] := by
  have hkey : ¬ IsKeyLine [] := fun hkey => hkey.1 rfl
  constructor <;> simp [keyLines, hkey]
  intro kind payload hdirective
  exact absurd rfl hdirective.ne_nil

theorem accounts_event {event : RecordedEvent} (h : IsDirective kind payload line)
    (hevent : eventOf kind payload = .ok (some event)) :
    Accounts [(line, number)] [(event, [number])] [] := by
  have hbatch := eventOf_not_isBatch h.1 hevent
  have hkeys : keysOf event = [] := keysOf_of_not_isBatch hbatch
  constructor
  case comesFrom =>
    intro entry hentry
    obtain rfl := List.mem_singleton.mp hentry
    exact .directive (List.mem_singleton_self _) h hevent hbatch
  case keys => simp [keyLines, hkeys, h.not_isKeyLine]
  case directives =>
    intro other hother kind' payload' hdirective
    obtain rfl := List.mem_singleton.mp hother
    obtain ⟨rfl, rfl⟩ := h.unique hdirective
    exact Or.inl ⟨event, hevent, hbatch, List.mem_singleton_self _, by simp⟩
  all_goals simp [h.not_isKeyLine]

theorem accounts_malformed (h : IsDirective kind payload line)
    (hevent : eventOf kind payload = .ok none) :
    Accounts [(line, number)] [] [⟨kind, number, line⟩] := by
  constructor
  case keys => simp [keyLines, h.not_isKeyLine]
  case directives =>
    intro other hother kind' payload' hdirective
    obtain rfl := List.mem_singleton.mp hother
    obtain ⟨rfl, rfl⟩ := h.unique hdirective
    exact Or.inr ⟨hevent, List.mem_singleton_self _, by simp⟩
  case warned =>
    intro warning hwarning
    obtain rfl := List.mem_singleton.mp hwarning
    exact ⟨List.mem_singleton_self _, payload, h⟩
  all_goals simp [h.not_isKeyLine]

end Single

/-! ## Reading accounts for every line -/

/-- These lines name keys, and no line in front of the line with this number has ended their
batch. -/
structure IsPending (pending : List NumberedLine) (number : Nat) : Prop where
  keys : ∀ line ∈ pending, IsKeyLine line.1
  inOrder : (pending.map Prod.snd).Pairwise (· < ·)
  before : ∀ line ∈ pending, line.2 < number

section Pending

variable {pending : List NumberedLine} {line : Text} {number : Nat}

theorem isPending_nil (number : Nat) : IsPending [] number :=
  ⟨List.forall_mem_nil _, .nil, List.forall_mem_nil _⟩

theorem IsPending.succ (h : IsPending pending number) : IsPending pending (number + 1) :=
  ⟨h.keys, h.inOrder, fun line hline => Nat.lt_succ_of_lt (h.before line hline)⟩

theorem IsPending.concat (h : IsPending pending number) (hkey : IsKeyLine line) :
    IsPending (pending ++ [(line, number)]) (number + 1) where
  keys := by
    rw [List.forall_mem_append, List.forall_mem_singleton]
    exact ⟨h.keys, hkey⟩
  inOrder := by
    rw [List.map_append, List.pairwise_append]
    refine ⟨h.inOrder, List.pairwise_singleton _ _, ?_⟩
    intro earlier hearlier last hlast
    obtain ⟨other, hother, rfl⟩ := List.mem_map.mp hearlier
    obtain rfl := List.mem_singleton.mp hlast
    exact h.before other hother
  before := by
    rw [List.forall_mem_append, List.forall_mem_singleton]
    exact ⟨h.succ.before, Nat.lt_succ_self number⟩

/-- A line that ends a batch is accounted for behind the batch and in front of the other lines. -/
theorem IsPending.exists_account {rest : List Text} {own : Account}
    {ownWarnings warnings : List RecordingWarning} {events : List RecordedEvent}
    (h : IsPending pending number) (hseparates : Separates line)
    (hown : Accounts [(line, number)] own ownWarnings)
    (hlater : ∃ account : Account, account.map Prod.fst = events ∧
      Accounts (rest.zipIdx (number + 1)) account warnings) :
    ∃ account : Account,
      account.map Prod.fst = batchEvent (pending.map Prod.fst) ++ own.map Prod.fst ++ events ∧
        Accounts (pending ++ (line, number) :: rest.zipIdx (number + 1)) account
          (ownWarnings ++ warnings) := by
  obtain ⟨later, rfl, hlater⟩ := hlater
  have hline : (line, number) ∈ [(line, number)] := List.mem_singleton_self _
  have hnot : ∀ other ∈ [(line, number)], ¬ IsKeyLine other.1 :=
    List.forall_mem_singleton.mpr fun hkey => hkey.not_separates hseparates
  have hbefore : Before pending [(line, number)] :=
    fun other hother => List.forall_mem_singleton.mpr (h.before other hother)
  have hafter : ∀ other ∈ rest.zipIdx (number + 1), number < other.2 :=
    fun other hother => (List.mem_zipIdx hother).1
  have hfirst : Accounts (pending ++ [(line, number)]) (batchAccount pending ++ own) ownWarnings :=
    (accounts_batch h.keys h.inOrder).append hown hbefore
      fun _ _ second hsecond _ hkey => absurd hkey (hnot second hsecond)
  refine ⟨batchAccount pending ++ own ++ later, by simp [batchAccount_events], ?_⟩
  rw [List.append_cons]
  refine hfirst.append hlater ?_ ?_
  · rw [Before, List.forall_mem_append, List.forall_mem_singleton]
    exact ⟨fun first hmem other hother => Nat.lt_trans (h.before first hmem) (hafter other hother),
      hafter⟩
  · intro first hmem other hother hkey _
    rcases List.mem_append.mp hmem with hmem | hmem
    · exact ⟨(line, number), List.mem_append_left _ (List.mem_append_right _ hline),
        h.before first hmem, hafter other hother, hseparates⟩
    · exact absurd hkey (hnot first hmem)

/-- The lines from `number` on account for what is read from them after the key lines `pending`,
which have not ended a batch yet. -/
theorem readLines_accounts {lines : List Text} {events : List RecordedEvent}
    (hpending : IsPending pending number)
    (h : (readLines number (pending.map Prod.fst) lines).events = .ok events) :
    ∃ account : Account, account.map Prod.fst = events ∧
      Accounts (pending ++ lines.zipIdx number) account
        (readLines number (pending.map Prod.fst) lines).warnings := by
  induction lines generalizing number pending events with
  | nil =>
    rw [readLines] at h ⊢
    obtain rfl := Except.ok.inj h
    refine ⟨batchAccount pending, batchAccount_events pending, ?_⟩
    rw [List.zipIdx_nil, List.append_nil]
    exact accounts_batch hpending.keys hpending.inOrder
  | cons line rest ih =>
    rw [List.zipIdx_cons]
    rcases line_cases line with rfl | hcomment | ⟨kind, payload, hdirective⟩ | hkey
    · rw [readLines_blank, Reading.events_after] at h
      obtain ⟨own, hown, rfl⟩ := h
      obtain ⟨account, hevents, haccounts⟩ := hpending.exists_account (Or.inl rfl) accounts_blank
        (ih (isPending_nil (number + 1)) hown)
      exact ⟨account, by simpa using hevents, haccounts⟩
    · rw [readLines_comment _ _ _ hcomment] at h ⊢
      obtain ⟨account, hevents, haccounts⟩ := ih hpending.succ h
      exact ⟨account, hevents, haccounts.insert_comment hcomment⟩
    · have hseparates : Separates line := Or.inr ⟨kind, payload, hdirective⟩
      rcases hevent : eventOf kind payload with error | _ | event
      · rw [readLines_error _ _ _ hdirective hevent] at h
        cases h
      · rw [readLines_malformed _ _ _ hdirective hevent] at h ⊢
        rw [Reading.events_warned, Reading.events_after] at h
        obtain ⟨own, hown, rfl⟩ := h
        obtain ⟨account, hevents, haccounts⟩ := hpending.exists_account hseparates
          (accounts_malformed hdirective hevent) (ih (isPending_nil (number + 1)) hown)
        exact ⟨account, by simpa using hevents, haccounts⟩
      · rw [readLines_event _ _ _ hdirective hevent] at h ⊢
        rw [Reading.events_after] at h
        obtain ⟨own, hown, rfl⟩ := h
        exact hpending.exists_account hseparates (accounts_event hdirective hevent)
          (ih (isPending_nil (number + 1)) hown)
    · rw [readLines_key _ _ _ hkey] at h ⊢
      have hmap : pending.map Prod.fst ++ [line] = (pending ++ [(line, number)]).map Prod.fst := by
        rw [List.map_append]
        rfl
      rw [hmap] at h ⊢
      rw [List.append_cons]
      exact ih (hpending.concat hkey) h

end Pending

/-- No line of a recording is lost, used twice or moved: if reading succeeds, some account of the
events together with the warnings covers all the lines. -/
theorem read_accounts {t : Text} {events : List RecordedEvent} (h : (read t).events = .ok events) :
    ∃ account : Account, account.map Prod.fst = events ∧
      Accounts (numberedLines t) account (read t).warnings :=
  readLines_accounts (isPending_nil 1) h

/-- A remark inside a batch, and directives of both sorts between batches. -/
def interruptedSession : Text := "a\n# pause\n b\n\nc\nfocus:in\nfocus:off\nd".toList

theorem read_accounts_interruptedSession :
    (read interruptedSession).events =
        .ok [.keys ["a".toList, "b".toList], .keys ["c".toList], .focus true, .keys ["d".toList]] ∧
      ∃ account : Account,
        account.map Prod.fst =
          [.keys ["a".toList, "b".toList], .keys ["c".toList], .focus true, .keys ["d".toList]] ∧
        Accounts (numberedLines interruptedSession) account (read interruptedSession).warnings :=
  ⟨by decide, read_accounts (by decide)⟩

end TermPilot.Recording
