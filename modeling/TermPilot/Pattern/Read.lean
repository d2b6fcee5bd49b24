import TermPilot.Number.Numeral
import TermPilot.Pattern.Basic

/-!
# Reading patterns

The written form of patterns: `.`, `^`, `$`, sets between brackets, groups between parentheses,
`|`, the repetitions `*`, `+`, `?` and counts between braces, and escapes after a backslash. How
deeply groups may be nested depends on the stack of the program that reads a pattern, so this limit
is a parameter.
-/

namespace TermPilot.Pattern

/-- What a repetition may follow. -/
inductive ItemKind where
  /-- A pattern that can be repeated. -/
  | single
  /-- A place, which cannot. -/
  | place
  /-- A repetition, which cannot be repeated again. -/
  | repetition
deriving DecidableEq

/-- A pattern in a sequence. -/
structure Item where
  /-- The pattern. -/
  pattern : Pattern
  /-- What it is. -/
  kind : ItemKind := .single

/-- The groups met so far. -/
structure Groups where
  /-- The number of groups that have begun. -/
  opened : Nat := 0
  /-- The numbers of the groups that have ended. -/
  closed : List Nat := []

/-- The sequence of patterns, given backwards. -/
def sequenceOf (items : List Item) : Pattern :=
  items.foldl (fun later item => match later with
    | .empty => item.pattern
    | _ => .seq item.pattern later) .empty

/-- A class escape by its letter, a capital for the characters outside of the class. -/
def classEscape? : Char → Option (CharClass × Bool)
  | 'd' => some (.digit, false)
  | 'D' => some (.digit, true)
  | 'w' => some (.word, false)
  | 'W' => some (.word, true)
  | 's' => some (.blank, false)
  | 'S' => some (.blank, true)
  | _ => none

/-- A place escape by its letter. -/
def placeEscape? : Char → Option Place
  | 'A' => some .textStart
  | 'Z' => some .textEnd
  | 'b' => some .wordEdge
  | 'B' => some .noWordEdge
  | _ => none

/-- The number of exactly `count` hexadecimal digits, as a character, and the rest. -/
def hexChar? (count : Nat) (t : Text) : Option (Char × Text) := do
  let digits ← (t.take count).mapM fun c => if c.toNat < 0x80 then Numeral.digitOf 16 c else none
  let n := Numeral.ofDigits 16 digits
  if digits.length = count ∧ n.isValidChar then some (Char.ofNat n, t.drop count) else none

/-- Whether `c` is a digit below eight. -/
def isOctal (c : Char) : Bool := '0' ≤ c && c ≤ '7'

/-- The character of an octal code at the start of the text, of at most `count` digits, and the
rest. -/
def octalChar? (count : Nat) (t : Text) : Option (Char × Text) :=
  let digits := (t.take count).takeWhile isOctal
  let n := Numeral.ofDigits 8 (digits.map fun c => c.toNat - '0'.toNat)
  if n < 256 then some (Char.ofNat n, t.drop digits.length) else none

/-- A character escape, after its backslash, and the rest. Letters and digits without a meaning
are refused; any other character stands for itself. -/
def charEscape? : Text → Option (Char × Text)
  | [] => none
  | 'a' :: rest => some ('\x07', rest)
  | 'f' :: rest => some ('\x0c', rest)
  | 'n' :: rest => some ('\n', rest)
  | 'r' :: rest => some ('\r', rest)
  | 't' :: rest => some ('\t', rest)
  | 'v' :: rest => some ('\x0b', rest)
  | 'x' :: rest => hexChar? 2 rest
  | 'u' :: rest => hexChar? 4 rest
  | 'U' :: rest => hexChar? 8 rest
  | '0' :: rest => octalChar? 2 rest
  | c :: rest => if c.isAlphanum then none else some (c, rest)

/-! ## Sets -/

/-- A part of a set: a character that may begin a range, or a class. -/
def setMember? : Text → Option (SetMember × Text)
  | '\\' :: 'b' :: rest => some (.range '\x08' '\x08', rest)
  | '\\' :: c :: rest => match classEscape? c with
    | some (class_, negated) => some (.ofClass class_ negated, rest)
    | none =>
      (if isOctal c then octalChar? 3 (c :: rest) else charEscape? (c :: rest)).map
        fun (c, rest) => (.range c c, rest)
  | '\\' :: [] => none
  | c :: rest => some (.range c c, rest)
  | [] => none

/-- The members of a set up to its closing bracket. A bracket in front of all others is a member. -/
def setMembers? (first : Bool) : Nat → Text → Option (List SetMember × Text)
  | 0, _ => none
  | fuel + 1, t =>
    match first, t with
    | _, [] => none
    | false, ']' :: rest => some ([], rest)
    | _, _ => do
      let (start, rest) ← setMember? t
      let single : Option (SetMember × Text) := some (start, rest)
      let (member, rest) ← match rest with
        | '-' :: ']' :: _ => single
        | '-' :: [] => none
        | '-' :: after => do
          match start, ← setMember? after with
          | .range low _, (.range high _, rest) =>
            if low ≤ high then some (.range low high, rest) else none
          | _, _ => none
        | _ => single
      let (members, rest) ← setMembers? false fuel rest
      return (member :: members, rest)

/-- A set after its opening bracket, and the rest. -/
def set? (t : Text) : Option (Pattern × Text) :=
  let (negated, t) := match t with
    | '^' :: rest => (true, rest)
    | _ => (false, t)
  (setMembers? true (t.length + 1) t).map fun (members, rest) => (.set members negated, rest)

/-! ## Repetitions -/

/-- The number of a run of digits, nothing for no digits. -/
def count? (digits : Text) : Option Nat :=
  if digits.isEmpty then none
  else some (Numeral.ofDigits 10 (digits.map fun c => c.toNat - '0'.toNat))

/-- The number that no number of repetitions reaches. -/
def countLimit : Nat := Nat.pow 2 32 - 1

/-- The number of repetitions that a run of digits stands for, nothing for no digits. -/
def repetitions (digits : Text) : Except PatternError (Option Nat) :=
  if digits.isEmpty then .ok none
  else match Numeral.plain digits with
    | .error _ => .error (.numeralTooLong digits.length)
    | .ok n => if n < countLimit then .ok (some n) else .error .countTooGreat

/-- How often something is repeated. -/
structure Bounds where
  /-- The least number. -/
  least : Nat
  /-- The greatest number, if there is one. -/
  most : Option Nat

/-- The bounds that two runs of digits stand for. -/
def Bounds.ofDigits (low high : Text) : Except PatternError Bounds := do
  let least ← repetitions low
  return ⟨least.getD 0, ← repetitions high⟩

/-- The bounds of a repetition after its opening brace, and the rest; a brace that begins no bounds
is an ordinary character. -/
def braces? (t : Text) : Option (Except PatternError Bounds × Text) :=
  let low := t.takeWhile Char.isDigit
  match t.dropWhile Char.isDigit with
  | ',' :: rest => match rest.dropWhile Char.isDigit with
    | '}' :: after => some (Bounds.ofDigits low (rest.takeWhile Char.isDigit), after)
    | _ => none
  | '}' :: after => if low.isEmpty then none else some (Bounds.ofDigits low low, after)
  | _ => none

/-- The bounds of a repetition at the start of the text, and the rest. -/
def bounds? : Text → Option (Except PatternError Bounds × Text)
  | '*' :: rest => some (.ok ⟨0, none⟩, rest)
  | '+' :: rest => some (.ok ⟨1, none⟩, rest)
  | '?' :: rest => some (.ok ⟨0, some 1⟩, rest)
  | '{' :: rest => braces? rest
  | _ => none

/-- The mark of greed after the bounds of a repetition, and the rest. -/
def greed : Text → Greed × Text
  | '?' :: rest => (.lazy, rest)
  | '+' :: rest => (.possessive, rest)
  | t => (.greedy, t)

/-- Repeats the last pattern of a sequence, given backwards. -/
def repeatLast? (bounds : Bounds) (how : Greed) : List Item → Option (List Item)
  | ⟨pattern, .single⟩ :: items =>
    if bounds.most.any (· < bounds.least) then none
    else some (⟨.rep pattern bounds.least bounds.most how, .repetition⟩ :: items)
  | _ => none

/-! ## Patterns -/

/-- What a backslash and a digit other than zero stand for, and the rest: a character by its code
if three octal digits follow the backslash, and otherwise a reference to a group. -/
def backref? (groups : Groups) (t : Text) : Option (Pattern × Text) :=
  if ((t.take 3).takeWhile isOctal).length = 3 then
    (octalChar? 3 t).map fun (c, rest) => (.char c, rest)
  else
    let digits := (t.take 2).takeWhile Char.isDigit
    match count? digits with
    | some n => if n ∈ groups.closed then some (.backref n, t.drop digits.length) else none
    | none => none

/-- What follows a backslash, and the rest. -/
def escape? (groups : Groups) (t : Text) : Option (Item × Text) :=
  match t with
  | [] => none
  | c :: rest =>
    match classEscape? c, placeEscape? c with
    | some (class_, negated), _ => some (⟨.set [.ofClass class_ negated] false, .single⟩, rest)
    | none, some where_ => some (⟨.place where_, .place⟩, rest)
    | none, none =>
      if '1' ≤ c ∧ c ≤ '9' then (backref? groups t).map fun (p, rest) => (⟨p, .single⟩, rest)
      else (charEscape? t).map fun (c, rest) => (⟨.char c, .single⟩, rest)

/-- What was read, where nothing means that the text is malformed. -/
def orMalformed {α : Type} : Option α → Except PatternError α
  | some a => .ok a
  | none => .error .malformed

/-- The number of groups inside each other that the stack of a program usually leaves room for. -/
def usualDepth : Nat := 490

mutual
/-- Alternatives up to a closing parenthesis or the end, and the rest; `depth` is the number of
groups around them, and `limit` is the greatest such number. -/
def alternatives (limit depth : Nat) :
    Nat → Groups → Text → Except PatternError (Pattern × Groups × Text)
  | 0, _, _ => .error .malformed
  | fuel + 1, groups, t => do
    let (first, groups, rest) ← items limit depth fuel groups [] t
    match rest with
    | '|' :: rest =>
      let (second, groups, rest) ← alternatives limit depth fuel groups rest
      return (.alt first second, groups, rest)
    | _ => return (first, groups, rest)

/-- The rest of a sequence of patterns, after those already read, given backwards. -/
def items (limit depth : Nat) :
    Nat → Groups → List Item → Text → Except PatternError (Pattern × Groups × Text)
  | 0, _, _, _ => .error .malformed
  | fuel + 1, groups, before, t =>
    match bounds? t with
    | some (bounds, rest) => do
      let bounds ← bounds
      let (how, rest) := greed rest
      items limit depth fuel groups (← orMalformed (repeatLast? bounds how before)) rest
    | none => match t with
      | [] => .ok (sequenceOf before, groups, [])
      | '|' :: _ => .ok (sequenceOf before, groups, t)
      | ')' :: _ => .ok (sequenceOf before, groups, t)
      | '(' :: '?' :: ':' :: rest => do
        let (body, groups, rest) ← enclosed limit depth fuel groups rest
        items limit depth fuel groups (⟨body, .single⟩ :: before) rest
      | '(' :: '?' :: _ => .error .malformed
      | '(' :: rest => do
        let number := groups.opened + 1
        let (body, groups, rest) ← enclosed limit depth fuel { groups with opened := number } rest
        let groups := { groups with closed := number :: groups.closed }
        items limit depth fuel groups (⟨.group number body, .single⟩ :: before) rest
      | '[' :: rest => do
        let (chars, rest) ← orMalformed (set? rest)
        items limit depth fuel groups (⟨chars, .single⟩ :: before) rest
      | '\\' :: rest => do
        let (item, rest) ← orMalformed (escape? groups rest)
        items limit depth fuel groups (item :: before) rest
      | '.' :: rest => items limit depth fuel groups (⟨.anyChar, .single⟩ :: before) rest
      | '^' :: rest => items limit depth fuel groups (⟨.place .lineStart, .place⟩ :: before) rest
      | '$' :: rest => items limit depth fuel groups (⟨.place .lineEnd, .place⟩ :: before) rest
      | c :: rest => items limit depth fuel groups (⟨.char c, .single⟩ :: before) rest

/-- The alternatives of a group after its beginning, and what follows its closing parenthesis. -/
def enclosed (limit depth : Nat) :
    Nat → Groups → Text → Except PatternError (Pattern × Groups × Text)
  | 0, _, _ => .error .malformed
  | fuel + 1, groups, t =>
    if depth ≥ limit then .error .tooDeep
    else do
      let (body, groups, rest) ← alternatives limit (depth + 1) fuel groups t
      match rest with
      | ')' :: rest => return (body, groups, rest)
      | _ => throw .malformed
end

/-- The pattern that a text stands for. -/
def read (t : Text) (limit : Nat := usualDepth) : Except PatternError Pattern := do
  let (pattern, _, rest) ← alternatives limit 0 (3 * t.length + 2) {} t
  if rest.isEmpty then return pattern else throw .malformed

end TermPilot.Pattern
